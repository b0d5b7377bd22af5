import ChatFlow.Run.Action

/-!
# Calls that stay in their chat

A chat makes one action of each call, or none. A message is taken back by its id alone, and a call by name asks for
whatever it likes. All other calls are bound to the chat: whatever they hold, their action is addressed to it.

* `Action.ToGroup`, `Action.ToUser`: the one place that an action is addressed to; `Action.Pokes`: somebody is poked.
* `Call.openKind?`: the calls that are not bound to the chat; `Chat.Confines`: the action stays in the chat.
* `Chat.confines_action`: the action of a call that is bound to the chat stays in it.
* `Outlet.effects_perform`: a call posts its action, if anything.
-/

namespace ChatFlow

/-- Texts of different strings differ. -/
theorem Text.ofString_inj {s t : String} : ofString s = ofString t ↔ s = t := by
  constructor
  · intro h
    have hstring := congrArg toString? h
    rw [toString?_ofString, toString?_ofString] at hstring
    exact Option.some.inj hstring
  · exact congrArg _

/-! ## Where actions are addressed to -/

namespace Action

/-- The names of the actions that send something to a group. -/
def groupSends : List Text := ["send_group_msg", "send_group_forward_msg"]

/-- The names of the actions that send something to a user. -/
def userSends : List Text := ["send_private_msg", "send_private_forward_msg"]

/-- The names of the actions that moderate a group. -/
def moderations : List Text :=
  ["send_group_sign", "set_group_ban", "set_group_kick", "set_group_whole_ban", "set_group_card", "set_group_admin",
   "_send_group_notice"]

/-- The action names a group and no other one. It moderates the group, or sends something to it and names no user as
another destination. -/
structure ToGroup (g : Text) (a : Action) : Prop where
  names : a.params.names.Nodup
  group : a.params.get? "group_id" = some (.text g)
  kind : a.name ∈ moderations ∨ a.name ∈ groupSends ∧ a.params.get? "user_id" = none

/-- The action sends something to a user, and names no other one and no group. -/
structure ToUser (u : Text) (a : Action) : Prop where
  names : a.params.names.Nodup
  user : a.params.get? "user_id" = some (.text u)
  group : a.params.get? "group_id" = none
  kind : a.name ∈ userSends

/-- What is sent to a user moderates no group. -/
theorem ToUser.not_mem_moderations {u : Text} {a : Action} (h : a.ToUser u) : a.name ∉ moderations := by
  have hdisjoint : ∀ name ∈ userSends, name ∉ moderations := by decide
  exact hdisjoint a.name h.kind

/-- The action sends a message in which somebody is poked. -/
def Pokes (a : Action) : Prop :=
  ∃ parts, a.params.get? "message" = some (.list parts) ∧ ∃ part ∈ parts, part.fieldOrNull "type" = .text "poke"

end Action

/-- The kind of the actions that make a call by name, or that take a message back; none for other calls, which are
bound to the chat that they are made in. -/
def Call.openKind? : Call → Option ActionKind
  | .retract _ => some .retract
  | .callApi .. => some .callApi
  | _ => none

namespace Chat

variable {c : Chat} {a : Action}

/-- The action is addressed to the chat: to its group if it has one, else to its user. In a chat that is fixed
beforehand, nobody is poked. -/
structure Confines (c : Chat) (a : Action) : Prop where
  group : ∀ g, c.groupName? = some g → a.ToGroup g
  user : c.groupName? = none → a.ToUser c.user
  poke : c.fixed → ¬ a.Pokes

/-! ## Messages -/

/-- What is sent to the chat under the name that fits it, with one more parameter, is addressed to it. -/
theorem confines_send {toGroup toUser name : Text} {v : Value} (hgroup : toGroup ∈ Action.groupSends)
    (huser : toUser ∈ Action.userSends) (hname : name ≠ "group_id" ∧ name ≠ "user_id")
    (hpoke : c.fixed → name = "message" → ∀ parts, v = .list parts →
      ∀ part ∈ parts, part.fieldOrNull "type" ≠ .text "poke") :
    c.Confines ⟨if c.groupName?.isSome then toGroup else toUser, [c.destination, (name, v)]⟩ := by
  obtain ⟨hnotGroup, hnotUser⟩ := hname
  constructor
  · intro g hg
    simp only [destination, hg, Option.isSome_some, if_true]
    refine ⟨?_, rfl, .inr ⟨hgroup, ?_⟩⟩
    · simp [Fields.names, hnotGroup.symm]
    · simp [Fields.get?, hnotUser, Text.ofString_inj]
  · intro hnone
    simp only [destination, hnone, Option.isSome_none, Bool.false_eq_true, if_false]
    refine ⟨?_, rfl, ?_, huser⟩
    · simp [Fields.names, hnotUser.symm]
    · simp [Fields.get?, hnotGroup, Text.ofString_inj]
  · rintro hfixed ⟨parts, hparts, part, hpart, hkind⟩
    -- the destination is no message, so the parts are those of the other parameter
    have hother : c.destination.1 ≠ "message" := by
      unfold destination
      split
      · simp [Text.ofString_inj]
      · simp [Text.ofString_inj]
    by_cases hmessage : name = "message"
    · simp only [Fields.get?, hother, hmessage, if_true, if_false, Option.some.injEq] at hparts
      exact hpoke hfixed hmessage parts hparts part hpart hkind
    · simp [Fields.get?, hother, hmessage] at hparts

theorem confines_message {parts : List Value}
    (hpoke : c.fixed → ∀ part ∈ parts, part.fieldOrNull "type" ≠ .text "poke") : c.Confines (c.message parts) := by
  apply confines_send
  · decide
  · decide
  · decide
  · rintro hfixed - _ ⟨⟩
    exact hpoke hfixed

theorem confines_bundle (c : Chat) (messages : List Text) : c.Confines (c.bundle messages) := by
  apply confines_send
  · decide
  · decide
  · decide
  · intro _ hmessage
    exact absurd hmessage (by decide)

/-! ## Moderation -/

/-- Moderation names the group of the chat, and there is none without a group. -/
theorem confines_onGroup {name : Text} {params : Fields Value} (hname : name ∈ Action.moderations)
    (hparams : ("group_id" :: params.names : List Text).Nodup) (hmessage : params.get? "message" = none)
    (h : c.onGroup name params = some a) : c.Confines a := by
  obtain ⟨g, hg, rfl⟩ := Option.map_eq_some_iff.mp h
  constructor
  · intro g' hg'
    rw [hg] at hg'
    cases hg'
    exact ⟨hparams, rfl, .inl hname⟩
  · intro hnone
    rw [hg] at hnone
    cases hnone
  · rintro - ⟨parts, hparts, -⟩
    have hother : Fields.get? (("group_id", .text g) :: params) "message" = params.get? "message" := if_neg (by decide)
    rw [hother, hmessage] at hparts
    cases hparts

/-! ## Calls -/

theorem type_segment (kind : Text) (data : Fields Value) : (segment kind data).fieldOrNull "type" = .text kind := rfl

/-- Whatever a call that is bound to the chat holds, its action stays in the chat. -/
theorem confines_action {call : Call} (hbound : call.openKind? = none) (h : c.action call = .ok (some a)) : c.Confines a := by
  have hparts : ∀ {parts : List Value}, (∀ part ∈ parts, part.fieldOrNull "type" ≠ .text "poke") →
      .ok (some (c.message parts)) = (.ok (some a) : Except Fault (Option Action)) → c.Confines a := by
    rintro parts hpoke ⟨⟩
    exact confines_message fun _ => hpoke
  have hgroup : ∀ {name : Text} {params : Fields Value}, name ∈ Action.moderations →
      ("group_id" :: params.names : List Text).Nodup → params.get? "message" = none →
      .ok (c.onGroup name params) = (.ok (some a) : Except Fault (Option Action)) → c.Confines a := by
    intro name params hname hparams hmessage h
    exact confines_onGroup hname hparams hmessage (Except.ok.inj h)
  cases call with
  | reply t => exact hparts (by simp [textSegment, type_segment, Text.ofString_inj]) h
  | replyImage source caption =>
      refine hparts ?_ h
      cases caption.filter (!·.isEmpty) with
      | none => simp [type_segment, Text.ofString_inj]
      | some t => simp [textSegment, type_segment, Text.ofString_inj]
  | replyVoice source => exact hparts (by simp [type_segment, Text.ofString_inj]) h
  | replyVideo source => exact hparts (by simp [type_segment, Text.ofString_inj]) h
  | replyFile url name => exact hparts (by simp [type_segment, Text.ofString_inj]) h
  | replyForward messages =>
      cases h
      exact c.confines_bundle messages
  | replyAt t =>
      rw [action] at h
      split at h
      · exact hparts (by simp [textSegment, type_segment, Text.ofString_inj]) h
      · exact hparts (by simp [textSegment, type_segment, Text.ofString_inj]) h
  | replyFace id =>
      rw [action] at h
      rcases hid : Value.integerText id with fault | t
      · rw [hid] at h
        cases h
      · rw [hid] at h
        exact hparts (by simp [type_segment, Text.ofString_inj]) h
  | replyPoke user =>
      -- only a chat with somebody who has spoken pokes
      rw [action] at h
      split at h
      · cases h
      · next hfree =>
          cases h
          exact confines_message fun hfixed => absurd hfixed hfree
  | replyJson data =>
      rw [action] at h
      rcases hdata : (Json.write .line data).mapError (·.toFault) with fault | t
      · rw [hdata] at h
        cases h
      · rw [hdata] at h
        exact hparts (by simp [type_segment, Text.ofString_inj]) h
  | replyMusic kind id => exact hparts (by simp [type_segment, Text.ofString_inj]) h
  | groupSign => exact hgroup (by decide) (by simp [Fields.names]) rfl h
  | groupBan user seconds => exact hgroup (by decide) (by simp [Fields.names, Text.ofString_inj]) rfl h
  | groupKick user rejectAdd => exact hgroup (by decide) (by simp [Fields.names, Text.ofString_inj]) rfl h
  | groupWholeBan enable => exact hgroup (by decide) (by simp [Fields.names, Text.ofString_inj]) rfl h
  | groupSetCard user card => exact hgroup (by decide) (by simp [Fields.names, Text.ofString_inj]) rfl h
  | groupSetAdmin user enable => exact hgroup (by decide) (by simp [Fields.names, Text.ofString_inj]) rfl h
  | groupNotice content => exact hgroup (by decide) (by simp [Fields.names, Text.ofString_inj]) rfl h
  | retract message => cases hbound
  | callApi name params => cases hbound

/-! ## The chats of messages and targets -/

/-- A message is in a group if it says so and names one. -/
theorem groupName?_ofEvent_iff (e : Event) (g : Text) :
    (ofEvent e).groupName? = some g ↔ e.kind = .group ∧ e.groupId = some g ∧ g ≠ [] := by
  by_cases hkind : e.kind = .group
  · simp [groupName?, ofEvent, hkind, Option.filter_eq_some_iff]
  · simp [groupName?, ofEvent, hkind]

/-- A target is a group if its kind says so and its id is not empty. -/
theorem groupName?_ofTarget_iff (kind id g : Text) :
    (ofTarget kind id).groupName? = some g ↔ kind = "group" ∧ id = g ∧ g ≠ [] := by
  by_cases hkind : kind = "group"
  · simp [groupName?, ofTarget, hkind, Option.filter_eq_some_iff]
  · simp [groupName?, ofTarget, hkind]

end Chat

/-! ## Posts -/

/-- What is posted is the action: to the place of its name, with its parameters. -/
structure Connector.Posts (k : Connector) (a : Action) (p : Post) : Prop where
  path : path? (k.address ++ "/" ++ a.name) = some p.path
  body : p.body = a.params
  authorization : p.authorization = if k.token.isEmpty then none else some ("Bearer " ++ k.token)

theorem Connector.effects_post (k : Connector) (a : Action) (w : World) :
    (k.post a w).2.effects = w.effects ∨ ∃ p, k.Posts a p ∧ (k.post a w).2.effects = w.effects ++ [.posted p] := by
  unfold post
  dsimp only
  split
  · next path hpath =>
      split
      · refine .inr ⟨⟨path, a.params, if k.token.isEmpty then none else some ("Bearer " ++ k.token)⟩, ⟨hpath, rfl, rfl⟩, ?_⟩
        split
        · rfl
        · rfl
      · exact .inl rfl
  · exact .inl rfl

/-- A call in a chat posts its action or nothing. -/
theorem Outlet.effects_perform (k : Connector) (c : Chat) (call : Call) (w : World) :
    ((connected k c).perform call w).2.effects = w.effects ∨
      ∃ a p, c.action call = .ok (some a) ∧ k.Posts a p ∧
        ((connected k c).perform call w).2.effects = w.effects ++ [.posted p] := by
  rcases haction : c.action call with fault | _ | a
  · left
    simp only [perform, haction]
  · left
    simp only [perform, haction]
  · -- what a call returns is no matter of what it posts
    have hposts : ((connected k c).perform call w).2 = (k.post a w).2 := by
      simp only [perform, haction]
      split
      · rfl
      · rfl
    rw [hposts]
    rcases k.effects_post a w with hnone | ⟨p, hp, heffects⟩
    · exact .inl hnone
    · exact .inr ⟨a, p, rfl, hp, heffects⟩

end ChatFlow
