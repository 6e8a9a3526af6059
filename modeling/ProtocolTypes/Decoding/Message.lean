import ProtocolTypes.Decoding.Declaration

/-!
# ProtocolTypes.Decoding.Message

Decoding requests and notifications from syntax trees.
-/

namespace ProtocolTypes
namespace Decoding

open Json

/-! ## Directions

A direction is written as its name, or as an object whose only member has that name as its key and
null as its value. -/

/-- The direction whose name ends at `stop`. -/
def directionOfName (name : String) (stop : Nat) : Decoded MessageDirection :=
  match MessageDirection.ofName? name with
  | some d => .ok d
  | none =>
    .error ⟨[], .unknownChoice name (MessageDirection.all.map (·.name)), some stop⟩

def unit : Tree → Decoded Unit
  | .null _ _ => .ok ()
  | t => t.reject "unit"

/-- The end of an object that is complete after one member. -/
def closeObject (landing : Nat) : Members → Decoded Unit
  | .closed _ => .ok ()
  | .badKey ⟨.endInObject, offset⟩ => .error (.ofSyntax ⟨.endInObject, offset⟩)
  | _ => .error (.ofSyntax ⟨.missingValue, landing⟩)

def directionOfMembers : Members → Decoded MessageDirection
  | .closed stop => .error (.ofSyntax ⟨.missingValue, stop⟩)
  | .broken f | .badKey f => .error (.ofSyntax f)
  | .badColon key f =>
    match directionOfName key.text key.stop with
    | .ok _ => .error (.ofSyntax f)
    | .error f => .error f
  | .member key value landing rest =>
    match directionOfName key.text key.stop with
    | .error f => .error f
    | .ok d =>
      match unit value with
      | .error f => .error (f.inside (.key key.text))
      | .ok () => (closeObject landing rest).map fun _ => d

/-- A string that could not be read is reported as such, and so is the end of the text; anything
else is refused where it starts. -/
def directionFault (start : Nat) (f : SyntaxFault) : SyntaxFault :=
  match f.cause with
  | .endInString | .invalidEscape | .controlCharacter | .loneSurrogate | .unfinishedSurrogatePair
  | .invalidCodePoint => f
  | .endInValue => if f.offset = start then f else ⟨.missingValue, start + 1⟩
  | _ => ⟨.missingValue, start + 1⟩

def direction : Tree → Decoded MessageDirection
  | .string _ stop name => directionOfName name stop
  | .object _ members => directionOfMembers members
  | .broken start f => .error (.ofSyntax (directionFault start f))
  | .null start _ | .bool start _ _ | .number start _ _ | .array start _ =>
    .error (.ofSyntax ⟨.missingValue, start + 1⟩)
  | .skipped => .error (.ofSyntax ⟨.missingValue, 0⟩)

/-! ## Requests -/

def params : Tree → Decoded (Option (OneOrMore TypeExpr)) :=
  Tree.toOption (Tree.via (oneOrMore typeExpr))

structure RequestParts where
  method : Option String := none
  result : Option TypeExpr := none
  params : Option (Option (OneOrMore TypeExpr)) := none
  partialResult : Option (Option TypeExpr) := none
  errorData : Option (Option TypeExpr) := none
  registrationMethod : Option (Option String) := none
  registrationOptions : Option (Option TypeExpr) := none
  messageDirection : Option MessageDirection := none
  others : List (String × Json) := []

def requestRecord : Record RequestParts Request where
  expected := "struct Request"
  start := {}
  filled p key :=
    match key with
    | "method" => p.method.isSome
    | "result" => p.result.isSome
    | "params" => p.params.isSome
    | "partialResult" => p.partialResult.isSome
    | "errorData" => p.errorData.isSome
    | "registrationMethod" => p.registrationMethod.isSome
    | "registrationOptions" => p.registrationOptions.isSome
    | "messageDirection" => p.messageDirection.isSome
    | _ => false
  put p key t :=
    match key with
    | "method" => t.toText.map fun s => { p with method := some s }
    | "result" => t.toTypeExpr.map fun e => { p with result := some e }
    | "params" => (Decoding.params t).map fun ps => { p with params := some ps }
    | "partialResult" =>
      (t.toOption Tree.toTypeExpr).map fun e => { p with partialResult := some e }
    | "errorData" => (t.toOption Tree.toTypeExpr).map fun e => { p with errorData := some e }
    | "registrationMethod" =>
      (t.toOption Tree.toText).map fun s => { p with registrationMethod := some s }
    | "registrationOptions" =>
      (t.toOption Tree.toTypeExpr).map fun e => { p with registrationOptions := some e }
    | "messageDirection" => (direction t).map fun d => { p with messageDirection := some d }
    | _ => (t.keep key p.others).map fun others => { p with others := others }
  finish p :=
    match p.method, p.result, p.messageDirection with
    | none, _, _ => .error (.missingField "method")
    | _, none, _ => .error (.missingField "result")
    | _, _, none => .error (.missingField "messageDirection")
    | some method, some result, some messageDirection =>
      (annotationsOf p.others.reverse).map fun a =>
        { method, result, messageDirection
          params := p.params.join
          partialResult := p.partialResult.join
          errorData := p.errorData.join
          registrationMethod := p.registrationMethod.join
          registrationOptions := p.registrationOptions.join
          annotations := a }

/-! ## Notifications -/

structure NotificationParts where
  method : Option String := none
  params : Option (Option (OneOrMore TypeExpr)) := none
  registrationMethod : Option (Option String) := none
  registrationOptions : Option (Option TypeExpr) := none
  messageDirection : Option MessageDirection := none
  others : List (String × Json) := []

def notificationRecord : Record NotificationParts Notification where
  expected := "struct Notification"
  start := {}
  filled p key :=
    match key with
    | "method" => p.method.isSome
    | "params" => p.params.isSome
    | "registrationMethod" => p.registrationMethod.isSome
    | "registrationOptions" => p.registrationOptions.isSome
    | "messageDirection" => p.messageDirection.isSome
    | _ => false
  put p key t :=
    match key with
    | "method" => t.toText.map fun s => { p with method := some s }
    | "params" => (Decoding.params t).map fun ps => { p with params := some ps }
    | "registrationMethod" =>
      (t.toOption Tree.toText).map fun s => { p with registrationMethod := some s }
    | "registrationOptions" =>
      (t.toOption Tree.toTypeExpr).map fun e => { p with registrationOptions := some e }
    | "messageDirection" => (direction t).map fun d => { p with messageDirection := some d }
    | _ => (t.keep key p.others).map fun others => { p with others := others }
  finish p :=
    match p.method, p.messageDirection with
    | none, _ => .error (.missingField "method")
    | _, none => .error (.missingField "messageDirection")
    | some method, some messageDirection =>
      (annotationsOf p.others.reverse).map fun a =>
        { method, messageDirection
          params := p.params.join
          registrationMethod := p.registrationMethod.join
          registrationOptions := p.registrationOptions.join
          annotations := a }

end Decoding
end ProtocolTypes
