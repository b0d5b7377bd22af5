import ChatFlow.Proofs.Workflow.Kinds

/-!
# Triggers that stumble

A trigger with a malformed pattern is set off by nothing. This is the only way of being refused that a trigger takes so:
a pattern can also ask for too many repetitions, write a number that is too long, or want ways of comparing that exclude
each other, and then the trigger stumbles over it. The triggers behind one that stumbles are not looked at.

* `Trigger.Stumbles`: a kind and a pattern at which a trigger stumbles, on any message.
* `Trigger.answer?`: the captures with which a message sets off a node, if a node that stumbles is set off by nothing.
* `Trigger.exists_captures?_iff`: one trigger; `first?_eq`, `exists_first?_error`: the first of several.
* `Trigger.first?_unless_stumbles`: which trigger is set off, and when this is not found out.
-/

namespace ChatFlow.Trigger

variable {kind content pattern : Text} {n : Node} {ns : List Node} {fault : PatternFault}

/-! ## One trigger -/

/-- The pattern of a trigger of the kind is refused, though it is not malformed. -/
def Stumbles (kind pattern : Text) : Prop :=
  kindOf kind = "regex" ∧ ∃ fault, Pattern.parse pattern = .error fault ∧ fault ≠ .malformed

/-- No message comes to a malformed pattern, as to none. -/
theorem patternCaptures?_of_malformed (h : Pattern.parse pattern = .error .malformed) :
    patternCaptures? content pattern = .ok none := by
  rw [patternCaptures?, Pattern.find, Pattern.compile, h]
  rfl

theorem exists_patternCaptures?_error (content : Text) (h : Pattern.parse pattern = .error fault) (hfault : fault ≠ .malformed) :
    ∃ cause, patternCaptures? content pattern = .error cause := by
  refine ⟨fault.toFault, ?_⟩
  rw [patternCaptures?, Pattern.find, Pattern.compile, h]
  cases fault with
  | malformed => exact absurd rfl hfault
  | repetitionTooLarge => rfl
  | numberTooLong => rfl
  | conflictingFlags => rfl

theorem exists_patternCaptures? (h : ∀ fault, Pattern.parse pattern = .error fault → fault = .malformed) :
    ∃ found, patternCaptures? content pattern = .ok found := by
  rcases hparse : Pattern.parse pattern with fault | p
  · obtain rfl := h fault hparse
    exact ⟨none, patternCaptures?_of_malformed hparse⟩
  · refine ⟨(p.pattern.search? content).map fun found => Pattern.captures p.groupCount found.2, ?_⟩
    rw [patternCaptures?, Pattern.find, Pattern.compile, hparse]
    rfl

/-- A trigger without a pattern is set off by nothing. -/
theorem captures?_nil (kind content : Text) : captures? kind content [] = .ok none := by
  rw [captures?]
  simp only [List.isEmpty_nil, Bool.or_true, if_true]

/-- The kind decides how the pattern is compared. -/
theorem captures?_of_pattern (hkind : kindOf kind = "regex") (hpattern : pattern ≠ []) :
    captures? kind content pattern = patternCaptures? content pattern := by
  have hname : (if kind.isEmpty then ("exact" : Text) else kind).trim = "regex" := hkind
  have hclock : clockKinds.contains ("regex" : Text) = false := by decide
  rw [captures?]
  simp only [hname, hclock, List.isEmpty_eq_false_iff.mpr hpattern, Bool.or_self, Bool.false_eq_true, if_false]
  rfl

theorem exists_captures?_of_ne (hkind : kindOf kind ≠ "regex") :
    ∃ found, captures? kind content pattern = .ok found := by
  have hname : (if kind.isEmpty then ("exact" : Text) else kind).trim ≠ "regex" := hkind
  rw [captures?]
  simp only [if_neg hname]
  repeat' split
  all_goals exact ⟨_, rfl⟩

/-- It is found out whether a message sets off a trigger, unless the trigger stumbles. -/
theorem exists_captures?_iff : (∃ found, captures? kind content pattern = .ok found) ↔ ¬ Stumbles kind pattern := by
  constructor
  · rintro ⟨found, hfound⟩ ⟨hkind, fault, hparse, hfault⟩
    have hpattern : pattern ≠ [] := by
      -- nothing is wrong with an empty pattern
      rintro rfl
      have hnothing : (Pattern.parse []).isOk = true := by decide +kernel
      rw [hparse] at hnothing
      cases hnothing
    obtain ⟨cause, hcause⟩ := exists_patternCaptures?_error content hparse hfault
    rw [captures?_of_pattern hkind hpattern, hcause] at hfound
    cases hfound
  · intro hfirm
    by_cases hkind : kindOf kind = "regex"
    · by_cases hpattern : pattern = []
      · exact ⟨none, hpattern ▸ captures?_nil kind content⟩
      · rw [captures?_of_pattern hkind hpattern]
        refine exists_patternCaptures? fun fault hparse => ?_
        by_contra hfault
        exact hfirm ⟨hkind, fault, hparse, hfault⟩
    · exact exists_captures?_of_ne hkind

/-- A refused pattern is set off by nothing, if the trigger does not stumble over it. -/
theorem captures?_of_refused (hkind : kindOf kind = "regex") (hparse : Pattern.parse pattern = .error fault)
    (hfirm : ¬ Stumbles kind pattern) : captures? kind content pattern = .ok none := by
  by_cases hpattern : pattern = []
  · exact hpattern ▸ captures?_nil kind content
  · obtain rfl : fault = .malformed := by
      by_contra hfault
      exact hfirm ⟨hkind, fault, hparse, hfault⟩
    rw [captures?_of_pattern hkind hpattern, patternCaptures?_of_malformed hparse]

/-! ## Several triggers -/

/-- The node is a trigger that stumbles. -/
def StumblesAt (n : Node) : Prop := ∃ d, n.body = .trigger d ∧ Stumbles d.kind d.pattern

/-- The captures with which a message sets off a node, where one that stumbles counts as one that is not set off. -/
def answer? (content : Text) (n : Node) : Option (List Text) := (capturesOf? n content).toOption.join

/-- The triggers that come before the first one that is set off. -/
def passedOver (content : Text) (ns : List Node) : List Node := ns.takeWhile fun n => (answer? content n).isNone

theorem capturesOf?_eq (h : ¬ StumblesAt n) : capturesOf? n content = .ok (answer? content n) := by
  have hfound : ∃ found, capturesOf? n content = .ok found := by
    rw [capturesOf?]
    split
    · next d hbody => exact exists_captures?_iff.mpr fun hstumbles => h ⟨d, hbody, hstumbles⟩
    · exact ⟨none, rfl⟩
  obtain ⟨found, hfound⟩ := hfound
  rw [answer?, hfound]
  rfl

theorem exists_capturesOf?_error (content : Text) (h : StumblesAt n) : ∃ cause, capturesOf? n content = .error cause := by
  obtain ⟨d, hbody, hstumbles⟩ := h
  simp only [capturesOf?, hbody]
  rcases hcaptures : captures? d.kind content d.pattern with cause | found
  · exact ⟨cause, rfl⟩
  · exact absurd hstumbles (exists_captures?_iff.mp ⟨found, hcaptures⟩)

theorem passedOver_cons_of_none (h : answer? content n = none) :
    passedOver content (n :: ns) = n :: passedOver content ns :=
  List.takeWhile_cons_of_pos (by rw [h]; rfl)

theorem passedOver_cons_of_some {captures : List Text} (h : answer? content n = some captures) :
    passedOver content (n :: ns) = [] :=
  List.takeWhile_cons_of_neg (by rw [h, Option.isNone_some]; exact Bool.false_ne_true)

/-- The first trigger is found that is set off, if none before it stumbles. -/
theorem first?_eq (h : ∀ n ∈ passedOver content ns, ¬ StumblesAt n) :
    first? content ns = .ok (ns.findSome? fun n => (answer? content n).map (n, ·)) := by
  induction ns with
  | nil => rfl
  | cons n ns ih =>
      rw [first?, List.findSome?_cons]
      rcases hanswer : answer? content n with _ | captures
      · -- the node is passed over, so that it does not stumble, and neither does one that is passed over behind it
        rw [passedOver_cons_of_none hanswer, List.forall_mem_cons] at h
        rw [capturesOf?_eq h.1, hanswer]
        exact ih h.2
      · have hfirm : ¬ StumblesAt n := by
          intro hstumbles
          obtain ⟨cause, hcause⟩ := exists_capturesOf?_error content hstumbles
          rw [answer?, hcause] at hanswer
          cases hanswer
        rw [capturesOf?_eq hfirm, hanswer]
        rfl

/-- Nothing is found if one stumbles before that. -/
theorem exists_first?_error (h : ∃ n ∈ passedOver content ns, StumblesAt n) :
    ∃ cause, first? content ns = .error cause := by
  induction ns with
  | nil =>
      obtain ⟨n, hmem, -⟩ := h
      cases hmem
  | cons n ns ih =>
      by_cases hstumbles : StumblesAt n
      · obtain ⟨cause, hcause⟩ := exists_capturesOf?_error content hstumbles
        refine ⟨cause, ?_⟩
        rw [first?, hcause]
        rfl
      · rcases hanswer : answer? content n with _ | captures
        · rw [passedOver_cons_of_none hanswer, List.exists_mem_cons_iff, or_iff_right hstumbles] at h
          obtain ⟨cause, hcause⟩ := ih h
          refine ⟨cause, ?_⟩
          rw [first?, capturesOf?_eq hstumbles, hanswer]
          exact hcause
        · -- nothing is passed over once a node is set off
          rw [passedOver_cons_of_some hanswer] at h
          obtain ⟨m, hmem, -⟩ := h
          cases hmem

/-- Whether a message sets off a trigger is found out exactly if the trigger does not stumble, and a refused pattern
then counts as one that does not match. Of several triggers the first one is found that is set off, whatever stands
before it, exactly if none of those stumbles. -/
theorem first?_unless_stumbles (content : Text) :
    (∀ kind pattern, (∃ found, captures? kind content pattern = .ok found) ↔ ¬ Stumbles kind pattern) ∧
    (∀ kind pattern fault, kindOf kind = "regex" → Pattern.parse pattern = .error fault →
      (captures? kind content pattern = .ok none ↔ ¬ Stumbles kind pattern)) ∧
    ∀ ns, first? content ns = .ok (ns.findSome? fun n => (answer? content n).map (n, ·)) ↔
      ∀ n ∈ passedOver content ns, ¬ StumblesAt n := by
  refine ⟨fun kind pattern => exists_captures?_iff, ?_, fun ns => ⟨?_, first?_eq⟩⟩
  · intro kind pattern fault hkind hparse
    exact ⟨fun hnone => exists_captures?_iff.mp ⟨none, hnone⟩, captures?_of_refused hkind hparse⟩
  · intro hfound n hmem hstumbles
    obtain ⟨cause, hcause⟩ := exists_first?_error ⟨n, hmem, hstumbles⟩
    rw [hcause] at hfound
    cases hfound

/-- A trigger of a kind and pattern. -/
def sampleTrigger (id kind pattern : Text) : Node :=
  { id := id, x := none, y := none, body := .trigger ⟨kind, pattern, [], []⟩, extra := [] }

/-- The first pattern asks for too many repetitions. The second trigger would be set off. -/
theorem first?_stumbles :
    let many := sampleTrigger "a" "regex" "x\x7b4294967295\x7d"
    let plain := sampleTrigger "b" "exact" "hi"
    capturesOf? many "hi" = .error .repetitionTooLarge ∧ capturesOf? plain "hi" = .ok (some []) ∧
      (first? "hi" [many, plain]).toOption = none ∧
      (([many, plain].findSome? fun n => (answer? "hi" n).map (n.id, ·)) = some (("b" : Text), [])) := by
  decide +kernel

end ChatFlow.Trigger
