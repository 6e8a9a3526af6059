import ProtocolTypes.Proofs.Decoding.Records
import ProtocolTypes.Proofs.Traversal

/-!
# ProtocolTypes.Proofs.Decoding.Messages

What messages and a whole meta model are decoded from, field by field (`request?`, `notification?`,
`metaModel?`). A meta model may also be an array of its first fields, which is decoded as the object
with these fields (`membersOr?`).
-/

namespace ProtocolTypes
namespace Decoding

open Json

/-! ## Messages -/

def direction? : Document → Option MessageDirection
  | .string name => MessageDirection.ofName? name
  | .object [(key, .null)] => MessageDirection.ofName? key
  | _ => none

theorem directionOfName_toOption (name : String) (stop : Nat) :
    (directionOfName name stop).toOption = MessageDirection.ofName? name := by
  rw [directionOfName]
  cases MessageDirection.ofName? name <;> rfl

def null? : Document → Option Unit
  | .null => some ()
  | _ => none

theorem sees_unit : Sees unit null? := by
  intro t
  cases t with
  | array _ es => cases h : es.documents? <;> simp [Tree.document?, h] <;> rfl
  | object _ ms => cases h : ms.documents? <;> simp [Tree.document?, h] <;> rfl
  | _ => rfl

theorem closeObject_toOption (landing : Nat) (ms : Members) :
    (closeObject landing ms).toOption =
      ms.documents?.bind fun ms => if ms.isEmpty then some () else none := by
  unfold closeObject
  split
  · rfl
  · rfl
  · rename_i hclosed _
    cases ms with
    | closed stop => exact absurd rfl (hclosed stop)
    | member key t landing' rest =>
      rw [Members.documents?]
      cases t.document? with
      | none => rfl
      | some d => cases rest.documents? <;> rfl
    | _ => rfl

theorem directionOfMembers_toOption (key : Key) (value : Tree) (landing : Nat) (rest : Members) :
    (directionOfMembers (.member key value landing rest)).toOption =
      (MessageDirection.ofName? key.text).bind fun direction =>
        (unit value).toOption.bind fun _ =>
          (closeObject landing rest).toOption.map fun _ => direction := by
  rw [← directionOfName_toOption key.text key.stop, directionOfMembers]
  cases directionOfName key.text key.stop <;> cases unit value <;>
    cases closeObject landing rest <;> rfl

theorem direction?_cons (key : String) (d : Document) (ms : List (String × Document)) :
    direction? (.object ((key, d) :: ms)) =
      (MessageDirection.ofName? key).bind fun direction =>
        (null? d).bind fun _ => if ms.isEmpty then some direction else none := by
  cases d <;> cases ms <;> cases h : MessageDirection.ofName? key <;> simp [direction?, null?, h]

theorem sees_direction : Sees direction direction? := by
  intro t
  cases t with
  | string _ stop name => exact directionOfName_toOption name stop
  | array _ es => cases h : es.documents? <;> simp [Tree.document?, h] <;> rfl
  | object _ ms =>
    rw [direction, Tree.document?]
    cases ms with
    | badColon key f =>
      rw [directionOfMembers]
      cases directionOfName key.text key.stop <;> rfl
    | member key value landing rest =>
      rw [directionOfMembers_toOption, sees_unit value, closeObject_toOption, Members.documents?]
      cases value.document? with
      | none => simp
      | some d =>
        cases rest.documents? with
        | none => simp
        | some ms =>
          simp only [Option.bind_some, Option.map_some, direction?_cons]
          cases ms <;> simp
    | _ => rfl
  | _ => rfl

def params? : Document → Option (Option (OneOrMore TypeExpr)) :=
  optional? (json? (oneOrMore typeExpr))

theorem sees_params : Sees Decoding.params params? :=
  (sees_via (oneOrMore typeExpr)).optional

def requestFields : List String :=
  ["method", "result", "params", "partialResult", "errorData",
  "registrationMethod", "registrationOptions", "messageDirection"]

def request? (d : Document) : Option Request := do
  let ms ← members? d
  let method ← field "method" text? ms
  let result ← field "result" typeExpr? ms
  let params ← field "params" params? ms
  let partialResult ← field "partialResult" (optional? typeExpr?) ms
  let errorData ← field "errorData" (optional? typeExpr?) ms
  let registrationMethod ← field "registrationMethod" (optional? text?) ms
  let registrationOptions ← field "registrationOptions" (optional? typeExpr?) ms
  let messageDirection ← field "messageDirection" direction? ms
  let annotations ← annotations? ms
  return {
    method := ← method
    result := ← result
    params := params.join
    partialResult := partialResult.join
    errorData := errorData.join
    registrationMethod := registrationMethod.join
    registrationOptions := registrationOptions.join
    messageDirection := ← messageDirection
    annotations }

/-- The parts of a request from what stands for each field. -/
def RequestParts.gathered (method : Option (Option String)) (result : Option (Option TypeExpr))
    (params : Option (Option (Option (OneOrMore TypeExpr))))
    (partialResult errorData : Option (Option (Option TypeExpr)))
    (registrationMethod : Option (Option (Option String)))
    (registrationOptions : Option (Option (Option TypeExpr)))
    (messageDirection : Option (Option MessageDirection)) (others : List (String × Json)) :
    Option RequestParts := do
  return {
    method := ← method
    result := ← result
    params := ← params
    partialResult := ← partialResult
    errorData := ← errorData
    registrationMethod := ← registrationMethod
    registrationOptions := ← registrationOptions
    messageDirection := ← messageDirection
    others }

def gatherRequest (p : RequestParts) (ms : List (String × Document)) : Option RequestParts :=
  RequestParts.gathered
    (fill text? p.method (valuesAt "method" ms))
    (fill typeExpr? p.result (valuesAt "result" ms))
    (fill params? p.params (valuesAt "params" ms))
    (fill (optional? typeExpr?) p.partialResult (valuesAt "partialResult" ms))
    (fill (optional? typeExpr?) p.errorData (valuesAt "errorData" ms))
    (fill (optional? text?) p.registrationMethod (valuesAt "registrationMethod" ms))
    (fill (optional? typeExpr?) p.registrationOptions (valuesAt "registrationOptions" ms))
    (fill direction? p.messageDirection (valuesAt "messageDirection" ms))
    ((leftovers requestFields ms).reverse ++ p.others)

theorem gathers_request : requestRecord.Gathers gatherRequest where
  nil p := rfl
  filled p key d ms h := by
    simp only [requestRecord] at h
    split at h
    all_goals first
      | cases h
      | simp [gatherRequest, RequestParts.gathered, fill_cons_of_isSome h]
  put p key t ms h := by
    simp only [requestRecord] at h ⊢
    split at h
    · refine sees_text.put (fun d => ?_) t
      cases hd : text? d <;>
        simp_all [gatherRequest, valuesAt_cons, leftovers_cons, requestFields]
      simp [RequestParts.gathered]
    · refine sees_typeExpr.put (fun d => ?_) t
      cases hd : typeExpr? d <;>
        simp_all [gatherRequest, valuesAt_cons, leftovers_cons, requestFields]
      simp [RequestParts.gathered]
    · refine sees_params.put (fun d => ?_) t
      cases hd : params? d <;>
        simp_all [gatherRequest, valuesAt_cons, leftovers_cons, requestFields]
      simp [RequestParts.gathered]
    · refine sees_typeExpr.optional.put (fun d => ?_) t
      cases hd : optional? typeExpr? d <;>
        simp_all [gatherRequest, valuesAt_cons, leftovers_cons, requestFields]
      simp [RequestParts.gathered]
    · refine sees_typeExpr.optional.put (fun d => ?_) t
      cases hd : optional? typeExpr? d <;>
        simp_all [gatherRequest, valuesAt_cons, leftovers_cons, requestFields]
      simp [RequestParts.gathered]
    · refine sees_text.optional.put (fun d => ?_) t
      cases hd : optional? text? d <;>
        simp_all [gatherRequest, valuesAt_cons, leftovers_cons, requestFields]
      simp [RequestParts.gathered]
    · refine sees_typeExpr.optional.put (fun d => ?_) t
      cases hd : optional? typeExpr? d <;>
        simp_all [gatherRequest, valuesAt_cons, leftovers_cons, requestFields]
      simp [RequestParts.gathered]
    · refine sees_direction.put (fun d => ?_) t
      cases hd : direction? d <;>
        simp_all [gatherRequest, valuesAt_cons, leftovers_cons, requestFields]
      simp [RequestParts.gathered]
    · refine (sees_keep key p.others).put (fun d => ?_) t
      simp_all [gatherRequest, valuesAt_cons, leftovers_cons, requestFields]

theorem gatherRequest_start (ms : List (String × Document)) :
    gatherRequest requestRecord.start ms =
      RequestParts.gathered (field "method" text? ms) (field "result" typeExpr? ms)
        (field "params" params? ms) (field "partialResult" (optional? typeExpr?) ms)
        (field "errorData" (optional? typeExpr?) ms)
        (field "registrationMethod" (optional? text?) ms)
        (field "registrationOptions" (optional? typeExpr?) ms)
        (field "messageDirection" direction? ms) (leftovers requestFields ms).reverse := by
  rw [gatherRequest, show requestRecord.start.others = [] from rfl, List.append_nil]
  rfl

theorem sees_request : Sees requestRecord.decode request? := by
  refine gathers_request.sees fun d => Option.bind_congr fun ms _ => ?_
  have hannotations := annotationsOf_leftovers requestFields (by decide) ms
  rw [gatherRequest_start]
  rcases field "method" text? ms with _ | method
  · rfl
  rcases field "result" typeExpr? ms with _ | result
  · rfl
  rcases field "params" params? ms with _ | params
  · rfl
  rcases field "partialResult" (optional? typeExpr?) ms with _ | partialResult
  · rfl
  rcases field "errorData" (optional? typeExpr?) ms with _ | errorData
  · rfl
  rcases field "registrationMethod" (optional? text?) ms with _ | registrationMethod
  · rfl
  rcases field "registrationOptions" (optional? typeExpr?) ms with _ | registrationOptions
  · rfl
  rcases field "messageDirection" direction? ms with _ | messageDirection
  · rfl
  cases method <;> cases result <;> cases messageDirection <;>
    simp [RequestParts.gathered, requestRecord, toOption_map, hannotations]
  cases annotations? ms <;> rfl

def notificationFields : List String :=
  ["method", "params", "registrationMethod",
  "registrationOptions", "messageDirection"]

def notification? (d : Document) : Option Notification := do
  let ms ← members? d
  let method ← field "method" text? ms
  let params ← field "params" params? ms
  let registrationMethod ← field "registrationMethod" (optional? text?) ms
  let registrationOptions ← field "registrationOptions" (optional? typeExpr?) ms
  let messageDirection ← field "messageDirection" direction? ms
  let annotations ← annotations? ms
  return {
    method := ← method
    params := params.join
    registrationMethod := registrationMethod.join
    registrationOptions := registrationOptions.join
    messageDirection := ← messageDirection
    annotations }

def gatherNotification (p : NotificationParts) (ms : List (String × Document)) : Option
    NotificationParts := do
  let method ← fill text? p.method (valuesAt "method" ms)
  let params ← fill params? p.params (valuesAt "params" ms)
  let registrationMethod ←
    fill (optional? text?) p.registrationMethod (valuesAt "registrationMethod" ms)
  let registrationOptions ←
    fill (optional? typeExpr?) p.registrationOptions (valuesAt "registrationOptions" ms)
  let messageDirection ← fill direction? p.messageDirection (valuesAt "messageDirection" ms)
  let others := (leftovers notificationFields ms).reverse ++ p.others
  return { method, params, registrationMethod, registrationOptions, messageDirection, others }

theorem gathers_notification : notificationRecord.Gathers gatherNotification where
  nil p := rfl
  filled p key d ms h := by
    simp only [notificationRecord] at h
    split at h <;> simp_all [gatherNotification, valuesAt_cons, fill_cons_of_isSome]
  put p key t ms h := by
    simp only [notificationRecord] at h ⊢
    split at h
    · refine sees_text.put (fun d => ?_) t
      cases hd : text? d <;>
        simp_all [gatherNotification, valuesAt_cons, leftovers_cons, notificationFields]
    · refine sees_params.put (fun d => ?_) t
      cases hd : params? d <;>
        simp_all [gatherNotification, valuesAt_cons, leftovers_cons, notificationFields]
    · refine sees_text.optional.put (fun d => ?_) t
      cases hd : optional? text? d <;>
        simp_all [gatherNotification, valuesAt_cons, leftovers_cons, notificationFields]
    · refine sees_typeExpr.optional.put (fun d => ?_) t
      cases hd : optional? typeExpr? d <;>
        simp_all [gatherNotification, valuesAt_cons, leftovers_cons, notificationFields]
    · refine sees_direction.put (fun d => ?_) t
      cases hd : direction? d <;>
        simp_all [gatherNotification, valuesAt_cons, leftovers_cons, notificationFields]
    · refine (sees_keep key p.others).put (fun d => ?_) t
      simp_all [gatherNotification, valuesAt_cons, leftovers_cons, notificationFields]

theorem sees_notification : Sees notificationRecord.decode notification? := by
  refine gathers_notification.sees fun d => Option.bind_congr fun ms _ => ?_
  have hannotations := annotationsOf_leftovers notificationFields (by decide) ms
  simp only [gatherNotification, notificationRecord, field, Option.bind_eq_bind, Option.pure_def,
    Option.bind_assoc, Option.bind_some, List.append_nil, List.reverse_reverse]
  refine Option.bind_congr fun method _ => Option.bind_congr fun params _ =>
    Option.bind_congr fun registrationMethod _ => Option.bind_congr fun registrationOptions _ =>
    Option.bind_congr fun messageDirection _ => ?_
  cases method <;> cases messageDirection <;> simp [toOption_map, hannotations]
  cases annotations? ms <;> rfl

/-! ## The meta model -/

def metaData? (d : Document) : Option String := do
  let ms ← membersOr? ["version"] d
  let version ← field "version" text? ms
  return version.getD ""

def gatherMetaData (p : MetaDataParts) (ms : List (String × Document)) : Option MetaDataParts := do
  let version ← fill text? p.version (valuesAt "version" ms)
  return { version }

theorem gathers_metaData : metaDataRecord.Gathers gatherMetaData where
  nil p := rfl
  filled p key d ms h := by
    simp only [metaDataRecord, Bool.and_eq_true, decide_eq_true_eq] at h
    obtain ⟨rfl, h⟩ := h
    simp [gatherMetaData, fill_cons_of_isSome h]
  put p key t ms h := by
    simp only [metaDataRecord] at h ⊢
    split
    · refine sees_text.put (fun d => ?_) t
      cases hd : text? d <;> simp_all [gatherMetaData]
    · refine sees_toJson.put (fun d => ?_) t
      simp_all [gatherMetaData, valuesAt_cons]

theorem separate_metaData : metaDataRecord.Separate := by
  intro p p' key t h key' hne
  simp only [metaDataRecord] at h ⊢
  split at h <;> obtain ⟨_, -, rfl⟩ := map_eq_ok.mp h
  · simp [hne]
  · rfl

theorem sees_metaData : Sees (metaDataRecord.decodeEither ["version"]) metaData? := by
  refine gathers_metaData.sees_either separate_metaData (by decide) (by decide) fun d =>
    Option.bind_congr fun ms _ => ?_
  simp [gatherMetaData, metaDataRecord, field, Option.bind_assoc]

def metaModel? (d : Document) : Option MetaModel := do
  let ms ← membersOr? metaModelFields d
  let version ← field "metaData" metaData? ms
  let requests ← field "requests" (list? request?) ms
  let notifications ← field "notifications" (list? notification?) ms
  let structures ← field "structures" (list? structure?) ms
  let enumerations ← field "enumerations" (list? enumeration?) ms
  let typeAliases ← field "typeAliases" (list? alias?) ms
  return ⟨version.getD "", requests.getD [], notifications.getD [], structures.getD [],
    enumerations.getD [], typeAliases.getD []⟩

def gatherMetaModel (p : MetaModelParts) (ms : List (String × Document)) :
    Option MetaModelParts := do
  let version ← fill metaData? p.version (valuesAt "metaData" ms)
  let requests ← fill (list? request?) p.requests (valuesAt "requests" ms)
  let notifications ← fill (list? notification?) p.notifications (valuesAt "notifications" ms)
  let structures ← fill (list? structure?) p.structures (valuesAt "structures" ms)
  let enumerations ← fill (list? enumeration?) p.enumerations (valuesAt "enumerations" ms)
  let typeAliases ← fill (list? alias?) p.typeAliases (valuesAt "typeAliases" ms)
  return { version, requests, notifications, structures, enumerations, typeAliases }

theorem gathers_metaModel : metaModelRecord.Gathers gatherMetaModel where
  nil p := rfl
  filled p key d ms h := by
    simp only [metaModelRecord] at h
    split at h <;> simp_all [gatherMetaModel, valuesAt_cons, fill_cons_of_isSome]
  put p key t ms h := by
    simp only [metaModelRecord] at h ⊢
    split at h
    · refine sees_metaData.put (fun d => ?_) t
      cases hd : metaData? d <;> simp_all [gatherMetaModel, valuesAt_cons]
    · refine sees_request.list.put (fun d => ?_) t
      cases hd : list? request? d <;> simp_all [gatherMetaModel, valuesAt_cons]
    · refine sees_notification.list.put (fun d => ?_) t
      cases hd : list? notification? d <;> simp_all [gatherMetaModel, valuesAt_cons]
    · refine sees_structure.list.put (fun d => ?_) t
      cases hd : list? structure? d <;> simp_all [gatherMetaModel, valuesAt_cons]
    · refine sees_enumeration.list.put (fun d => ?_) t
      cases hd : list? enumeration? d <;> simp_all [gatherMetaModel, valuesAt_cons]
    · refine sees_alias.list.put (fun d => ?_) t
      cases hd : list? alias? d <;> simp_all [gatherMetaModel, valuesAt_cons]
    · refine sees_toJson.put (fun d => ?_) t
      simp_all [gatherMetaModel, valuesAt_cons]

theorem separate_metaModel : metaModelRecord.Separate := by
  intro p p' key t h key' hne
  simp only [metaModelRecord] at h ⊢
  split at h <;> obtain ⟨_, -, rfl⟩ := map_eq_ok.mp h
  -- the places of other members than the one that was put
  all_goals split <;> first | rfl | exact absurd rfl hne

theorem sees_metaModel : Sees metaModel metaModel? := by
  refine gathers_metaModel.sees_either separate_metaModel (by decide) (by decide) fun d =>
    Option.bind_congr fun ms _ => ?_
  simp [gatherMetaModel, metaModelRecord, field, Option.bind_assoc]

end Decoding
end ProtocolTypes
