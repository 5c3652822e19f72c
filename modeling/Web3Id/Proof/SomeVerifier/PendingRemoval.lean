import Mathlib.Tactic.Common
import Web3Id.Construction.SomeVerifier.RemovalDialog
import Web3Id.Library.PressHistory

namespace Web3Id.SomeVerifier.RemoveVerification

open Library

/-- The digest failed or the wallet was not connected, and `submit` ends without its clean-up. -/
def Submission.Escapes (submission : Submission) (reply : Reply) : Prop :=
  match submission.stage, reply with
  | .hashing, .digest challenge => challenge = none
  | .connecting _, .wallet answer => answer ≠ .accounts
  | _, _ => False

/-- A reply continues a submission or ends it, and the flag is cleared at an end that is no
escape. -/
theorem Submission.resume_cases (submission : Submission) (dialog : Dialog) (app : App)
    (reply : Reply) :
    ∃ after page,
      (∃ next, submission.resume dialog app reply = (after, page, some next) ∧
        after.pending = dialog.pending ∧ ¬submission.Escapes reply) ∨
      (submission.resume dialog app reply = (after, page, none) ∧ after.pending = false ∧
        ¬submission.Escapes reply) ∨
      (submission.resume dialog app reply = (after, page, none) ∧
        after.pending = dialog.pending ∧ submission.Escapes reply) := by
  obtain ⟨platform, timestamp, provider, stage⟩ := submission
  cases stage with
  | hashing =>
      cases reply with
      | digest challenge =>
          cases challenge with
          | none => exact ⟨dialog, app, .inr (.inr ⟨rfl, rfl, rfl⟩)⟩
          | some challenge =>
              by_cases cached : provider ∈ app.connected
              · exact ⟨dialog, app, .inl ⟨⟨platform, timestamp, provider, .proving challenge⟩,
                  by simp [resume, cached], rfl, by simp [Escapes]⟩⟩
              · exact ⟨dialog, app, .inl ⟨⟨platform, timestamp, provider, .connecting challenge⟩,
                  by simp [resume, cached], rfl, by simp [Escapes]⟩⟩
      | _ => exact ⟨dialog, app, .inl ⟨_, rfl, rfl, id⟩⟩
  | connecting challenge =>
      cases reply with
      | wallet answer =>
          cases answer with
          | undetected =>
              exact ⟨{ dialog with error := some "Wallet not found" }, app.setShowModal true,
                .inr (.inr ⟨rfl, rfl, by simp [Escapes]⟩)⟩
          | refused =>
              exact ⟨{ dialog with error := some "Wallet connection rejected by user" }, app,
                .inr (.inr ⟨rfl, rfl, by simp [Escapes]⟩)⟩
          | accounts =>
              exact ⟨dialog, { app with connected := provider :: app.connected },
                .inl ⟨⟨platform, timestamp, provider, .proving challenge⟩, rfl, rfl,
                  by simp [Escapes]⟩⟩
      | _ => exact ⟨dialog, app, .inl ⟨_, rfl, rfl, id⟩⟩
  | proving challenge =>
      cases reply with
      | presentation proof =>
          cases proof with
          | none => exact ⟨dialog.failed, app, .inr (.inl ⟨rfl, rfl, id⟩)⟩
          | some proof =>
              exact ⟨dialog, app,
                .inl ⟨⟨platform, timestamp, provider, .fetching ⟨proof, timestamp⟩⟩, rfl, rfl, id⟩⟩
      | _ => exact ⟨dialog, app, .inl ⟨_, rfl, rfl, id⟩⟩
  | fetching body =>
      cases reply with
      | response response =>
          cases response with
          | ok =>
              exact ⟨{ dialog with removed := true, pending := false }, app,
                .inr (.inl ⟨rfl, rfl, id⟩)⟩
          | notOk =>
              exact ⟨dialog, app, .inl ⟨⟨platform, timestamp, provider, .reading⟩, rfl, rfl, id⟩⟩
          | failed => exact ⟨dialog.failed, app, .inr (.inl ⟨rfl, rfl, id⟩)⟩
      | _ => exact ⟨dialog, app, .inl ⟨_, rfl, rfl, id⟩⟩
  | reading =>
      cases reply with
      | text => exact ⟨dialog.failed, app, .inr (.inl ⟨rfl, rfl, id⟩)⟩
      | _ => exact ⟨dialog, app, .inl ⟨_, rfl, rfl, id⟩⟩

namespace Session

/-- After the event the flag is set exactly while a submission is in flight, otherwise a visible
button is enabled, and there is at most one removal request. -/
def Agrees (session : Session) (event : Event) : Prop :=
  ((session.step event).dialog.pending = true ↔ (session.step event).submissions ≠ []) ∧
    ((session.step event).submissions = [] → (session.step event).dialog.visible = true →
      (session.step event).dialog.removed = false →
        (session.step event).dialog.enabled = true) ∧
    (session.step event).requests.length ≤ 1

/-- The hashing and the wallet connection of a submission succeed, and the dialog is closed while
none is in flight. -/
def Orderly (session : Session) : Event → Prop
  | .resume index reply =>
      ∀ submission, session.submissions[index]? = some submission → ¬submission.Escapes reply
  | .onClosed =>
      session.dialog.visible = true → session.dialog.isOpen = false → session.submissions = []
  | _ => True

/-- The flag counts the submissions. -/
def Kept (session : Session) : Prop :=
  session.submissions.length = session.dialog.pending.toNat

theorem loaded_kept : loaded.Kept := rfl

section

variable {session : Session}

theorem Kept.pending_iff (kept : session.Kept) :
    session.dialog.pending = true ↔ session.submissions ≠ [] := by
  rw [Kept] at kept
  rw [← List.length_pos_iff, kept]
  cases session.dialog.pending <;> decide

theorem Kept.length_le (kept : session.Kept) : session.submissions.length ≤ 1 := by
  rw [kept]
  exact Bool.toNat_le _

/-- A submission that is in flight is the only one. -/
theorem Kept.single (kept : session.Kept) {index : Nat} {submission : Submission}
    (waiting : session.submissions[index]? = some submission) :
    session.dialog.pending = true ∧ (session.submissions.eraseIdx index).length = 0 := by
  obtain ⟨inside, -⟩ := List.getElem?_eq_some_iff.mp waiting
  have busy : session.submissions ≠ [] := List.length_pos_iff.mp (Nat.zero_lt_of_lt inside)
  refine ⟨kept.pending_iff.mpr busy, ?_⟩
  rw [List.length_eraseIdx_of_lt inside]
  exact Nat.sub_eq_zero_of_le kept.length_le

theorem Kept.agrees {event : Event} (kept : (session.step event).Kept) : session.Agrees event := by
  refine ⟨kept.pending_iff, fun idle visible shown => ?_, ?_⟩
  · have cleared : (session.step event).dialog.pending = false := by
      rw [← Bool.not_eq_true, kept.pending_iff, not_not]
      exact idle
    simp [Dialog.enabled, visible, shown, cleared]
  · exact Nat.le_trans (List.length_filterMap_le _ _) kept.length_le

theorem Kept.submit (kept : session.Kept) (platform : Option Platform) (timestamp : String) :
    (session.submit platform timestamp).Kept := by
  by_cases enabled : session.dialog.enabled = true
  · cases platform with
    | none =>
        have same : session.submit none timestamp = session := by simp [Session.submit]
        rw [same]
        exact kept
    | some platform =>
        have idle : session.dialog.pending = false := by
          simp only [Dialog.enabled, Bool.and_eq_true, Bool.not_eq_true'] at enabled
          exact enabled.2
        have stepped : session.submit (some platform) timestamp = { session with
            dialog := { session.dialog with pending := true }
            submissions :=
              session.submissions ++ [⟨platform, timestamp, session.app.renders, .hashing⟩] } := by
          simp [Session.submit, enabled]
        rw [Kept, idle] at kept
        rw [stepped, Kept, List.length_append, kept]
        rfl
  · have same : session.submit platform timestamp = session := by simp [Session.submit, enabled]
    rw [same]
    exact kept

theorem resume_unknown {index : Nat} (unknown : session.submissions[index]? = none)
    (reply : Reply) : session.resume index reply = session := by
  simp [Session.resume, unknown]

theorem resume_continued {index : Nat} {reply : Reply} {submission next : Submission}
    {dialog : Dialog} {app : App} (waiting : session.submissions[index]? = some submission)
    (resumed : submission.resume session.dialog session.app reply = (dialog, app, some next)) :
    session.resume index reply = ⟨dialog, app, session.submissions.set index next⟩ := by
  simp [Session.resume, waiting, resumed]

theorem resume_ended {index : Nat} {reply : Reply} {submission : Submission} {dialog : Dialog}
    {app : App} (waiting : session.submissions[index]? = some submission)
    (resumed : submission.resume session.dialog session.app reply = (dialog, app, none)) :
    session.resume index reply = ⟨dialog, app, session.submissions.eraseIdx index⟩ := by
  simp [Session.resume, waiting, resumed]

theorem Kept.resume (kept : session.Kept) (index : Nat) (reply : Reply)
    (orderly : session.Orderly (.resume index reply)) : (session.resume index reply).Kept := by
  cases waiting : session.submissions[index]? with
  | none =>
      rw [resume_unknown waiting]
      exact kept
  | some submission =>
      obtain ⟨dialog, app, ⟨next, resumed, pending, -⟩ | ⟨resumed, cleared, -⟩ | ⟨-, -, escapes⟩⟩ :=
        submission.resume_cases session.dialog session.app reply
      · rw [resume_continued waiting resumed, Kept, List.length_set, kept, pending]
      · rw [resume_ended waiting resumed, Kept, (kept.single waiting).2, cleared]
        rfl
      · exact absurd escapes (orderly submission waiting)

theorem Kept.onClosed (kept : session.Kept) (orderly : session.Orderly .onClosed) :
    session.onClosed.Kept := by
  rw [Session.onClosed]
  split
  · rename_i closing
    rw [Kept, orderly closing.1 closing.2]
    rfl
  · exact kept

theorem Kept.step (kept : session.Kept) (event : Event) (orderly : session.Orderly event) :
    (session.step event).Kept := by
  cases event with
  | submit platform timestamp => exact kept.submit platform timestamp
  | resume index reply => exact kept.resume index reply orderly
  | onClosed => exact kept.onClosed orderly
  | setOpen => exact kept
  | setShowModal shown => exact kept
  | toggle =>
      rw [Session.step]
      split <;> exact kept
  | onChange =>
      rw [Session.step]
      split <;> exact kept
  | prove provider reply =>
      rw [Session.step]
      split <;> exact kept

/-- A submission that escapes leaves the flag set, and a dialog that closes clears the flag of a
submission in flight. -/
theorem Kept.orderly (kept : session.Kept) {event : Event} (agrees : session.Agrees event) :
    session.Orderly event := by
  have flag := agrees.1
  cases event with
  | resume index reply =>
      intro submission waiting escaped
      obtain ⟨dialog, app, ⟨-, -, -, orderly⟩ | ⟨-, -, orderly⟩ | ⟨resumed, pending, -⟩⟩ :=
        submission.resume_cases session.dialog session.app reply
      · exact orderly escaped
      · exact orderly escaped
      · obtain ⟨busy, ended⟩ := kept.single waiting
        rw [Session.step, resume_ended waiting resumed] at flag
        exact flag.mp (pending.trans busy) (List.length_eq_zero_iff.mp ended)
  | onClosed =>
      intro visible closing
      have stepped : session.step .onClosed =
          { session with dialog := { session.dialog.reset with visible := false } } := by
        simp [Session.step, Session.onClosed, visible, closing]
      rw [stepped] at flag
      by_contra busy
      cases flag.mpr busy
  | _ => trivial

end

/-- The flag follows the submissions at every moment of a run exactly when every event of the run
is orderly. -/
theorem pendingRemoval_agrees (events : List Event) :
    PressHistory.Each step Agrees loaded events ↔ PressHistory.Each step Orderly loaded events := by
  have means (session : Session) (event : Event) (kept : session.Kept) :
      session.Agrees event ↔ session.Orderly event :=
    ⟨kept.orderly, fun orderly => (kept.step event orderly).agrees⟩
  have keeps (session : Session) (event : Event) (kept : session.Kept)
      (orderly : session.Orderly event) : (session.step event).Kept := kept.step event orderly
  exact PressHistory.each_congr keeps means loaded_kept events

/-- The user rejects the connection of the wallet. -/
def rejectedConnection : List Event :=
  [.setOpen, .submit (some .discord) "2023-10-05T12:00:00.000Z",
    .resume 0 (.digest (some "fcc5e2250968f315d872a77445aa297d098bfe1d9739b71ab8acf23c5b3e773e")),
    .resume 0 (.wallet .refused)]

/-- The dialog is closed while its request is on the way, and a second removal is submitted. -/
def reopenedDialog : List Event :=
  [.setOpen, .submit (some .discord) "2023-10-05T12:00:00.000Z",
    .resume 0 (.digest (some "fcc5e2250968f315d872a77445aa297d098bfe1d9739b71ab8acf23c5b3e773e")),
    .resume 0 (.wallet .accounts), .resume 0 (.presentation (some ⟨[], [], []⟩)), .toggle,
    .onClosed, .setOpen, .submit (some .telegram) "2023-10-05T12:00:09.000Z",
    .resume 1 (.digest (some "16182463992a4235f3a7110d13c57934b0b02faf410c187861ad6ea8fe5ceb91")),
    .resume 1 (.presentation (some ⟨[], [], []⟩))]

/-- The rejected attempt leaves the button disabled, and the second removal leaves two requests in
flight. -/
theorem pendingRemoval_escapes :
    ¬PressHistory.Each step Agrees loaded rejectedConnection ∧
      (PressHistory.after step loaded rejectedConnection).dialog =
        ⟨true, true, true, false, some "Wallet connection rejected by user"⟩ ∧
      (PressHistory.after step loaded rejectedConnection).submissions = [] ∧
      (PressHistory.after step loaded reopenedDialog).requests.length = 2 := by
  have dialog : (PressHistory.after step loaded rejectedConnection).dialog =
      ⟨true, true, true, false, some "Wallet connection rejected by user"⟩ := by decide
  have ended : (PressHistory.after step loaded rejectedConnection).submissions = [] := by decide
  refine ⟨?_, dialog, ended, by decide⟩
  rintro ⟨-, -, -, ⟨flag, -⟩, -⟩
  exact flag.mp (congrArg Dialog.pending dialog) ended

end Session

end Web3Id.SomeVerifier.RemoveVerification
