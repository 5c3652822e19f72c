import Web3Id.Construction.Presentation
import Web3Id.Construction.SomeVerifier.Schema

/-
This file is the dialog that removes a verification, and the wallet provider of its page.
-/

namespace Web3Id.SomeVerifier

inductive ConnectionErrorCode where
  | notFound
  | rejected
  deriving DecidableEq, Repr

structure ConnectionError where
  code : ConnectionErrorCode
  message : String
  deriving DecidableEq, Repr

def ConnectionError.notFound : ConnectionError := ⟨.notFound, "Wallet not found"⟩

def ConnectionError.rejected : ConnectionError :=
  ⟨.rejected, "Wallet connection rejected by user"⟩

/-- The browser has no wallet, or the user answers its request for accounts. -/
inductive WalletReply where
  | undetected
  | refused
  | accounts
  deriving DecidableEq, Repr

def connectWallet : WalletReply → Except ConnectionError Unit
  | .undetected => .error .notFound
  | .refused => .error .rejected
  | .accounts => .ok ()

/-- Each render of the page creates a reference for the wallet, and a provider that uses it. -/
structure App where
  renders : Nat
  connected : List Nat
  showModal : Bool
  deriving DecidableEq, Repr

namespace App

def loaded : App := ⟨0, [], false⟩

/-- The page renders again when its modal changes. -/
def setShowModal (app : App) (shown : Bool) : App :=
  if app.showModal = shown then app
  else { app with renders := app.renders + 1, showModal := shown }

/-- The provider of a render has asked the wallet. -/
def concordiumProvider (app : App) (provider : Nat) (reply : WalletReply) :
    App × Except ConnectionError Unit :=
  match connectWallet reply with
  | .ok () => ({ app with connected := provider :: app.connected }, .ok ())
  | .error e =>
      if e.code = .notFound then (app.setShowModal true, .error e) else (app, .error e)

end App

namespace RemoveVerification

structure Body where
  proof : Presentation
  timestamp : String
  deriving DecidableEq, Repr

/-- What a submission waits for. -/
inductive Stage where
  | hashing
  | connecting (challenge : String)
  | proving (challenge : String)
  | fetching (body : Body)
  | reading
  deriving DecidableEq, Repr

/-- A submission keeps the provider of the render that it started in. -/
structure Submission where
  platform : Platform
  timestamp : String
  provider : Nat
  stage : Stage
  deriving DecidableEq, Repr

inductive Response where
  | ok
  | notOk
  | failed
  deriving DecidableEq, Repr

/-- A digest or a presentation that is missing was an error. -/
inductive Reply where
  | digest (challenge : Option String)
  | wallet (reply : WalletReply)
  | presentation (proof : Option Presentation)
  | response (response : Response)
  | text
  deriving DecidableEq, Repr

/-- The state of the component. The dialog is still visible while it closes. -/
structure Dialog where
  visible : Bool
  isOpen : Bool
  pending : Bool
  removed : Bool
  error : Option String
  deriving DecidableEq, Repr

namespace Dialog

def loaded : Dialog := ⟨false, false, false, false, none⟩

def reset (dialog : Dialog) : Dialog :=
  { dialog with pending := false, removed := false, error := none }

/-- The submit button is hidden after a removal and disabled while one is pending. -/
def enabled (dialog : Dialog) : Bool := dialog.visible && !dialog.removed && !dialog.pending

/-- The second error handler, with its `finally`. -/
def failed (dialog : Dialog) : Dialog :=
  { dialog with
    error := some "Could not remove verification. Try another platform."
    pending := false }

end Dialog

structure Session where
  dialog : Dialog
  app : App
  submissions : List Submission
  deriving DecidableEq, Repr

def Session.loaded : Session := ⟨Dialog.loaded, App.loaded, []⟩

/-- The rest of `submit` after a reply. A submission that has ended is none. -/
def Submission.resume (submission : Submission) (dialog : Dialog) (app : App) (reply : Reply) :
    Dialog × App × Option Submission :=
  match submission.stage, reply with
  -- The digest is taken outside of any handler.
  | .hashing, .digest none => (dialog, app, none)
  | .hashing, .digest (some challenge) =>
      if submission.provider ∈ app.connected then
        (dialog, app, some { submission with stage := .proving challenge })
      else (dialog, app, some { submission with stage := .connecting challenge })
  | .connecting challenge, .wallet answer =>
      match app.concordiumProvider submission.provider answer with
      | (app, .ok ()) => (dialog, app, some { submission with stage := .proving challenge })
      | (app, .error e) => ({ dialog with error := some e.message }, app, none)
  | .proving _, .presentation none => (dialog.failed, app, none)
  | .proving _, .presentation (some proof) =>
      (dialog, app, some { submission with stage := .fetching ⟨proof, submission.timestamp⟩ })
  | .fetching _, .response .ok => ({ dialog with removed := true, pending := false }, app, none)
  | .fetching _, .response .notOk => (dialog, app, some { submission with stage := .reading })
  | .fetching _, .response .failed => (dialog.failed, app, none)
  | .reading, .text => (dialog.failed, app, none)
  | _, _ => (dialog, app, some submission)

inductive Event where
  | setOpen
  | toggle
  | onClosed
  | onChange
  | submit (platform : Option Platform) (timestamp : String)
  | resume (index : Nat) (reply : Reply)
  /-- The page asks the wallet for its own proof. -/
  | prove (provider : Nat) (reply : WalletReply)
  | setShowModal (shown : Bool)
  deriving Repr

namespace Session

/-- The form is submitted with its button. -/
def submit (session : Session) (platform : Option Platform) (timestamp : String) : Session :=
  if session.dialog.enabled then
    match platform with
    | none => session
    | some platform =>
        { session with
          dialog := { session.dialog with pending := true }
          submissions :=
            session.submissions ++ [⟨platform, timestamp, session.app.renders, .hashing⟩] }
  else session

def resume (session : Session) (index : Nat) (reply : Reply) : Session :=
  match session.submissions[index]? with
  | none => session
  | some submission =>
      match submission.resume session.dialog session.app reply with
      | (dialog, app, none) => ⟨dialog, app, session.submissions.eraseIdx index⟩
      | (dialog, app, some submission) => ⟨dialog, app, session.submissions.set index submission⟩

/-- The end of the transition of a dialog that is no longer open. -/
def onClosed (session : Session) : Session :=
  if session.dialog.visible ∧ session.dialog.isOpen = false then
    { session with dialog := { session.dialog.reset with visible := false } }
  else session

def step (session : Session) : Event → Session
  | .setOpen => { session with dialog := { session.dialog with visible := true, isOpen := true } }
  | .toggle =>
      if session.dialog.visible then
        { session with dialog := { session.dialog with isOpen := !session.dialog.isOpen } }
      else session
  | .onClosed => session.onClosed
  | .onChange =>
      if session.dialog.visible then
        { session with dialog := { session.dialog with error := none } }
      else session
  | .submit platform timestamp => session.submit platform timestamp
  | .resume index reply => session.resume index reply
  | .prove provider reply =>
      if provider ≤ session.app.renders ∧ provider ∉ session.app.connected then
        { session with app := (session.app.concordiumProvider provider reply).1 }
      else session
  | .setShowModal shown => { session with app := session.app.setShowModal shown }

/-- The removal requests that the server has not answered. -/
def requests (session : Session) : List Body :=
  session.submissions.filterMap fun submission =>
    match submission.stage with
    | .fetching body => some body
    | _ => none

end Session

end RemoveVerification

end Web3Id.SomeVerifier
