import PhasedInstall.Cluster.Access
import PhasedInstall.Http.Message
import PhasedInstall.Json.Reader

/-!
# Exchanges

A `Link` is a program that sends requests and may fail. Sending one yields the text of the
response, unless the response reports a failure: then its text says which, or is itself quoted.
-/

set_option autoImplicit false

namespace PhasedInstall.Http

/-- What a program over messages may ask: to exchange one, and what a program over the cluster may
ask besides objects. -/
inductive Step where
  | send (request : Request)
  | clock (since : Nat)
  | sleep (since duration : Nat)
  | report (event : Event)

/-- What a step is answered with. Time does not run backwards, and a sleep is not cut short. -/
abbrev Step.Reply : Step → Type
  | send _ => Response
  | clock since => { now : Nat // since ≤ now }
  | sleep since duration => { now : Nat // since + duration ≤ now }
  | report _ => Unit

/-- The steps as an interface. -/
abbrev interface : Interface := ⟨Step, Step.Reply⟩

/-- Asks for one step. -/
def ask (s : Step) : Program interface s.Reply := .ask s .done

/-- A program over messages that may fail. -/
abbrev Link := ExceptT Fault (Program interface)

namespace Link

variable {α : Type}

/-- A result that was computed without a message. -/
def ofExcept : Except Fault α → Link α
  | .ok a => pure a
  | .error f => throw f

/-- What an exchange comes to: its result or the fault it met. -/
def outcome (l : Link α) : Link (Except Fault α) := ExceptT.lift l.run

end Link

/-- Reads the report of a failure: an object, or the list of its four fields. -/
def refusal? : Json → Option Refusal
  | .obj m => do
    let status ← (Table.get? "status" m).bind Json.str?
    let text (key : String) : Option String :=
      match Table.get? key m with
      | none => some ""
      | some v => v.str?
    let code ← (Table.get? "code" m).bind (Json.intWithin? 0 65535)
    pure ⟨status, ← text "message", ← text "reason", code.toNat⟩
  | .arr [status, message, reason, code] => do
    let code ← Json.intWithin? 0 65535 code
    pure ⟨← status.str?, ← message.str?, ← reason.str?, code.toNat⟩
  | _ => none

/-- The failure that a response reports. -/
def refusalOf (r : Response) : Refusal :=
  match (Json.parse? r.text).bind refusal? with
  | some refusal => refusal
  | none =>
    ⟨statusText r.status, Text.quoted r.text, "Failed to parse error data", r.status⟩

/-- The text of a response that reports no failure. -/
def textOf (r : Response) : Except Fault String :=
  if isFailure r.status then .error (.refused (refusalOf r)) else .ok r.text

/-- What is reported of a request to a target that is none. -/
def unsent : Fault :=
  .unaddressable ("Failed to build request: failed to build request: " ++ Target.complaint)

/-- Sends a request. A target that is none cannot be sent to. -/
def send (method : Method) (target : String) (body : Option Json) : Link String := do
  match Target.ofText? target with
  | none => throw unsent
  | some target => Link.ofExcept (textOf (← ExceptT.lift (ask (.send ⟨method, target, body⟩))))

/-- Reads the text of a response. -/
def readAs {α : Type} (read? : Json → Option α) (text : String) : Except Fault α :=
  match (Json.parse? text).bind read? with
  | some a => .ok a
  | none => .error .undecodable

/-- Sends a request and reads the response. -/
def fetch {α : Type} (read? : Json → Option α) (method : Method) (target : String)
    (body : Option Json) : Link α := do
  Link.ofExcept (readAs read? (← send method target body))

/-- Reads what is stored at a target. What is reported as not found is absent. -/
def fetch? {α : Type} (read? : Json → Option α) (target : String) : Link (Option α) := do
  match ← (fetch read? .get target none).outcome with
  | .ok a => return some a
  | .error (.refused r) => if r.reason = "NotFound" then return none else throw (.refused r)
  | .error f => throw f

end PhasedInstall.Http
