import ProtocolTypes.Decoding.Fault
import ProtocolTypes.Json.Tree

/-!
# ProtocolTypes.Decoding.Basic

Decoders of syntax trees: single values, lists, and records given by what their members mean. All
of them report the first fault in the order of the text.
-/

namespace ProtocolTypes
namespace Json

open Decoding

namespace Tree

/-- Refuses a node whose form is not the expected one: a single value after it has been read, an
array or object where it starts. -/
def reject {α : Type} (expected : String) : Tree → Decoded α
  | .broken _ f => .error (.ofSyntax f)
  | .skipped => .error ⟨[], .wrongType .null expected, none⟩
  | .null _ stop => fail stop .null
  | .bool _ stop b => fail stop (.bool b)
  | .number _ stop n => fail stop (.number n)
  | .string _ stop s => fail stop (.string s)
  | .array start _ => fail start .list
  | .object start _ => fail start .object
where
  fail (offset : Nat) (found : Found) : Decoded α :=
    .error ⟨[], .wrongType found expected, some offset⟩

/-! ## Whole values -/

mutual

/-- The JSON value of a tree without faults. -/
def toJson : Tree → Decoded Json
  | .broken _ f => .error (.ofSyntax f)
  | .skipped => .ok .null
  | .null _ _ => .ok .null
  | .bool _ _ b => .ok (.bool b)
  | .number _ _ n => .ok (.number n)
  | .string _ _ s => .ok (.string s)
  | .array _ elements =>
    match elementsToJson 0 elements with
    | .ok items => .ok (.array items)
    | .error f => .error f
  | .object _ members =>
    match membersToJson [] members with
    | .ok members => .ok (.object members)
    | .error f => .error f

def elementsToJson (i : Nat) : Elements → Decoded (List Json)
  | .closed _ => .ok []
  | .broken f => .error (.ofSyntax f)
  | .element value _ rest =>
    match toJson value with
    | .error f => .error (f.inside (.index i))
    | .ok v =>
      match elementsToJson (i + 1) rest with
      | .ok vs => .ok (v :: vs)
      | .error f => .error f

def membersToJson (before : List (String × Json)) : Members → Decoded (List (String × Json))
  | .closed _ => .ok before
  | .broken f => .error (.ofSyntax f)
  | .badKey f => .error ((Fault.ofSyntax f).inside .unknown)
  | .badColon _ f => .error (.ofSyntax f)
  | .member key value _ rest =>
    match toJson value with
    | .error f => .error (f.inside (.key key.text))
    | .ok v => membersToJson (insertMember key.text v before) rest

end

/-! ## Single values -/

def toText : Tree → Decoded String
  | .string _ _ s => .ok s
  | t => t.reject "a string"

def toBool : Tree → Decoded Bool
  | .bool _ _ b => .ok b
  | t => t.reject "a boolean"

/-- A value that may be null. -/
def toOption {α : Type} (decode : Tree → Decoded α) : Tree → Decoded (Option α)
  | .null _ _ => .ok none
  | t => (decode t).map some

end Tree

/-! ## Lists -/

namespace Elements

def decode {α : Type} (item : Tree → Decoded α) (i : Nat) : Elements → Decoded (List α)
  | .closed _ => .ok []
  | .broken f => .error (.ofSyntax f)
  | .element value landing rest =>
    match item value with
    | .error f => .error ((f.inside (.index i)).settle landing)
    | .ok x =>
      match decode item (i + 1) rest with
      | .ok xs => .ok (x :: xs)
      | .error f => .error f

end Elements

def Tree.toList {α : Type} (item : Tree → Decoded α) : Tree → Decoded (List α)
  | .array _ elements => elements.decode item 0
  | t => t.reject "a sequence"

end Json

/-! ## Records -/

namespace Decoding

open Json

/-- How a record is put together from its members. Members arrive in the order of the text; one
that has been filled must not come again. -/
structure Record (σ α : Type) where
  expected : String
  start : σ
  filled : σ → String → Bool
  put : σ → String → Tree → Decoded σ
  finish : σ → Except Complaint α

namespace Record

variable {σ α : Type}

/-- The parts collected from the members, and the place after the closing brace. -/
def collect (r : Record σ α) (parts : σ) : Members → Decoded (σ × Nat)
  | .closed stop => .ok (parts, stop)
  | .broken f => .error (.ofSyntax f)
  | .badKey f => .error ((Fault.ofSyntax f).inside .unknown)
  | .badColon key f =>
    if r.filled parts key.text then
      .error ⟨[], .duplicateField key.text, some key.landing⟩
    else .error (.ofSyntax f)
  | .member key value landing rest =>
    if r.filled parts key.text then
      .error ⟨[], .duplicateField key.text, some key.landing⟩
    else
      match r.put parts key.text value with
      | .error f => .error ((f.inside (.key key.text)).settle landing)
      | .ok parts => collect r parts rest

def ofMembers (r : Record σ α) (members : Members) : Decoded α :=
  match r.collect r.start members with
  | .error f => .error f
  | .ok (parts, stop) =>
    match r.finish parts with
    | .ok x => .ok x
    | .error complaint => .error ⟨[], complaint, some stop⟩

/-- Decodes an object. -/
def decode (r : Record σ α) : Tree → Decoded α
  | .object _ members => r.ofMembers members
  | t => t.reject r.expected

/-! A record with a fixed number of fields may also be written as an array of its fields. -/

/-- The end of an array that is complete after some fields. -/
def closeArray (landing : Nat) : Elements → Decoded Unit
  | .closed _ => .ok ()
  | .broken ⟨.endInValue, offset⟩ => .error (.ofSyntax ⟨.trailingCharacters, offset⟩)
  | .broken ⟨.missingListComma, offset⟩ => .error (.ofSyntax ⟨.trailingCharacters, offset⟩)
  | .broken f => .error (.ofSyntax f)
  | .element _ _ _ => .error (.ofSyntax ⟨.trailingCharacters, landing + 1⟩)

/-- Fills the named fields in order; fields beyond the end of the array stay unfilled. -/
def ofElements (r : Record σ α) (fields : List String) (i landing : Nat) (parts : σ) :
    Elements → Decoded α
  | elements =>
    match fields, elements with
    | [], _ =>
      match closeArray landing elements with
      | .error f => .error f
      | .ok () =>
        match r.finish parts with
        | .ok x => .ok x
        | .error complaint => .error ⟨[], complaint, some landing⟩
    | _ :: _, .closed stop =>
      match r.finish parts with
      | .ok x => .ok x
      | .error complaint => .error ⟨[], complaint, some stop⟩
    | _ :: _, .broken f => .error (.ofSyntax f)
    | field :: fields, .element value landing rest =>
      match r.put parts field value with
      | .error f => .error ((f.inside (.index i)).settle landing)
      | .ok parts => ofElements r fields (i + 1) landing parts rest

/-- Decodes an object, or an array of the named fields. -/
def decodeEither (r : Record σ α) (fields : List String) : Tree → Decoded α
  | .array _ elements => r.ofElements fields 0 0 r.start elements
  | t => r.decode t

end Record
end Decoding
end ProtocolTypes
