import StorageAgent.Decimal
import StorageAgent.Json.Basic
import StorageAgent.Payload.Opcode
import StorageAgent.Text.Utf8

/-!
# Payloads

The instruction data of the agent program:

    InitBookkeeper       [0]
    CreateClientAccount  [1]
    DeleteClient         [2][client id]
    SendRequest          [3][client id][request type][name:128]
                         [file id][position:8, little endian][data:512]

Names and data are padded with zeros. A `Call` is an instruction whose fields
are known to fit; `check` makes one from arguments, `Call.payload` writes it,
and `Call.parse` reads it back, without the zeros at the end of name and data.

A fault shows integers in full: the limit of 4300 digits that holds where integers
are read (`Json.digitLimit`) is left out where they are shown.
-/
namespace StorageAgent

/-! ## Arguments

What a caller hands over for a field of a payload: a value of any kind, checked only when the
payload is built. -/

/-- An unchecked value. A buffer is a byte string that its owner may still change; a byte string of
zeros is given by its length. -/
inductive Argument where
  | null
  | bool (b : Bool)
  | int (n : Int)
  | float (x : Float)
  | text (s : String)
  | bytes (b : Bytes)
  | buffer (b : Bytes)
  | zeros (count : Nat)
  | list (items : List Json)
  deriving Inhabited

namespace Argument

/-- The name of the kind of a value, as messages give it. -/
def kindName : Argument → String
  | null => "NoneType"
  | bool _ => "bool"
  | int _ => "int"
  | float _ => "float"
  | text _ => "str"
  | bytes _ => "bytes"
  | buffer _ => "bytearray"
  | zeros _ => "bytes"
  | list _ => "list"

def display : Argument → String
  | null => Json.null.display
  | bool b => (Json.bool b).display
  | int n => (Json.int n).display
  | float x => (Json.float x).display
  | text s => s
  | bytes b => Text.quoteBytes b
  | buffer b => "bytearray(" ++ Text.quoteBytes b ++ ")"
  | zeros count => Text.quoteBytes (List.replicate count 0)
  | list items => (Json.list items).display

/-- The integer that a number equals. A truth value counts as 0 or 1. -/
def number? : Argument → Option Int
  | bool b => some (if b then 1 else 0)
  | int n => some n
  | float x => Decimal.integer? x
  | _ => none

end Argument

/-! ## Faults -/

def nameSize : Nat := 128

def dataSize : Nat := 512

def byteMax : Nat := 255

def wordMax : Nat := 18446744073709551615

/-- Why an argument, a payload or an account is refused. -/
inductive InputFault where
  | notInteger (field kind : String)
  | outOfRange (field : String) (maximum : Nat) (value : Int)
  | unknownRequestType (value : Int)
  | unknownOpcode (shown : String)
  | missingRequest
  | notBytes (field kind : String)
  | tooLarge (field : String) (size limit : Int)
  | emptyPayload
  | payloadSize (opcode : Opcode) (expected actual : Nat)
  | shortBookkeeper (actual expected : Nat)
  | shortRequest (actual expected : Nat)
  | noSuchClient (id last : Int)
  /-- Refused by a caller, in its own words. -/
  | reported (message : String) (field : Option String)

namespace InputFault

def message : InputFault → String
  | notInteger field kind => s!"{field} must be an integer, got {kind}"
  | outOfRange field maximum value => s!"{field} must be between 0 and {maximum}, got {value}"
  | unknownRequestType value => s!"unknown request type {value}"
  | unknownOpcode shown => s!"unknown opcode {shown}"
  | missingRequest => "SendRequest needs SendRequestArgs"
  | notBytes field kind => s!"{field} must be str or bytes, got {kind}"
  | tooLarge field size limit => s!"{field} is {size} bytes, maximum is {limit}"
  | emptyPayload => "empty payload"
  | payloadSize opcode expected actual =>
    s!"{opcode.name} payload must be {expected} bytes, got {actual}"
  | shortBookkeeper actual expected => s!"bookkeeper account is {actual} bytes, expected {expected}"
  | shortRequest actual expected => s!"request account is {actual} bytes, expected {expected}"
  | noSuchClient id last => s!"client id {id} is outside 0..{last}"
  | reported message _ => message

def field? : InputFault → Option String
  | notInteger field _ => some field
  | outOfRange field _ _ => some field
  | unknownRequestType _ => some "request_type"
  | unknownOpcode _ => some "opcode"
  | notBytes field _ => some field
  | tooLarge field _ _ => some field
  | reported _ field => field
  | _ => none

end InputFault

/-! ## Checks of one field -/

def Argument.toBytes (field : String) : Argument → Except InputFault Bytes
  | .text s => .ok (Text.Utf8.encode s)
  | .bytes b => .ok b
  | .buffer b => .ok b
  | .zeros count => .ok (List.replicate count 0)
  | a => .error (.notBytes field a.kindName)

/-- The bytes of an argument, if they fit a field of `size` bytes. -/
def Argument.fitting (size : Nat) (field : String) (a : Argument) :
    Except InputFault { b : Bytes // b.length ≤ size } :=
  match a with
  -- a byte string of zeros may be far too long to be made first
  | .zeros count =>
    if h : count ≤ size then .ok ⟨List.replicate count 0, by simpa using h⟩
    else .error (.tooLarge field count size)
  | a => do
    let b ← a.toBytes field
    if h : b.length ≤ size then return ⟨b, h⟩ else .error (.tooLarge field b.length size)

/-- An integer from 0 to `maximum`. A truth value is no integer. -/
def Argument.within (maximum : Nat) (field : String) : Argument → Except InputFault Nat
  | .int n => if 0 ≤ n ∧ n ≤ maximum then .ok n.toNat else .error (.outOfRange field maximum n)
  | a => .error (.notInteger field a.kindName)

def Argument.requestType (a : Argument) : Except InputFault RequestType := do
  let n ← a.within byteMax "request_type"
  match RequestType.ofNumber? n with
  | some t => return t
  | none => .error (.unknownRequestType n)

/-- The opcode that an argument equals. -/
def Argument.opcode (a : Argument) : Except InputFault Opcode :=
  match a.number?.bind Opcode.ofNumber? with
  | some o => .ok o
  | none => .error (.unknownOpcode a.display)

/-! ## Requests -/

/-- The arguments of a storage request. -/
structure Draft where
  requestType : Argument
  name : Argument := .bytes []
  fileId : Argument := .int 0
  position : Argument := .int 0
  data : Argument := .bytes []
  clientId : Argument := .int 0

/-- The arguments of an instruction. -/
inductive Arguments where
  | none
  | delete (clientId : Argument)
  | send (draft : Draft)

/-- A storage request whose fields fit. -/
structure Request where
  clientId : UInt8
  requestType : RequestType
  name : Bytes
  fileId : UInt8
  position : UInt64
  data : Bytes
  name_le : name.length ≤ nameSize
  data_le : data.length ≤ dataSize

def Request.nameText (r : Request) : String := Text.Utf8.decodeLossy r.name

/-- The first field that does not fit is reported, in the order of the checks below. -/
def Draft.check (d : Draft) : Except InputFault Request := do
  let clientId ← d.clientId.within byteMax "client_id"
  let requestType ← d.requestType.requestType
  let name ← d.name.fitting nameSize "name"
  let fileId ← d.fileId.within byteMax "file_id"
  let position ← d.position.within wordMax "position"
  let data ← d.data.fitting dataSize "data"
  return {
    clientId := UInt8.ofNat clientId, requestType, name := name.1, fileId := UInt8.ofNat fileId
    position := UInt64.ofNat position, data := data.1, name_le := name.2, data_le := data.2 }

def Request.payload (r : Request) : Bytes :=
  Opcode.sendRequest.code :: r.clientId :: r.requestType.code ::
    (Bytes.padRight nameSize r.name ++ r.fileId ::
      (Bytes.ofNatLE 8 r.position.toNat ++ Bytes.padRight dataSize r.data))

/-! ## Calls -/

/-- An instruction whose fields fit. -/
inductive Call where
  | initBookkeeper
  | createClientAccount
  | deleteClient (clientId : UInt8)
  | sendRequest (request : Request)

namespace Call

def opcode : Call → Opcode
  | initBookkeeper => .initBookkeeper
  | createClientAccount => .createClientAccount
  | deleteClient _ => .deleteClient
  | sendRequest _ => .sendRequest

def payload : Call → Bytes
  | initBookkeeper => [Opcode.initBookkeeper.code]
  | createClientAccount => [Opcode.createClientAccount.code]
  | deleteClient clientId => [Opcode.deleteClient.code, clientId]
  | sendRequest request => request.payload

/-- The call of an opcode and arguments. A deletion takes the client id of either kind of arguments,
and 0 without any. -/
def check (opcode : Opcode) (args : Arguments) : Except InputFault Call :=
  match opcode with
  | .initBookkeeper => .ok initBookkeeper
  | .createClientAccount => .ok createClientAccount
  | .deleteClient => do
    let clientId : Argument :=
      match args with
      | .none => .int 0
      | .delete clientId => clientId
      | .send draft => draft.clientId
    let n ← clientId.within byteMax "client_id"
    return deleteClient (UInt8.ofNat n)
  | .sendRequest =>
    match args with
    | .send draft => draft.check.map sendRequest
    | _ => .error .missingRequest

end Call

def Opcode.payloadSize : Opcode → Nat
  | .initBookkeeper => 1
  | .createClientAccount => 1
  | .deleteClient => 2
  | .sendRequest => 1 + 1 + 1 + nameSize + 1 + 8 + dataSize

def encodePayload (opcode : Argument) (args : Arguments) : Except InputFault Bytes := do
  let opcode ← opcode.opcode
  let call ← Call.check opcode args
  return call.payload

theorem Bytes.length_trimRight_le (b : Bytes) : (Bytes.trimRight b).length ≤ b.length := by
  induction b with
  | nil => simp [Bytes.trimRight]
  | cons x rest ih =>
    unfold Bytes.trimRight
    split
    · split <;> simp
    · rename_i h; simp at ih ⊢; omega

/-- `size` bytes from position `start` on. -/
def Bytes.slice (start size : Nat) (b : Bytes) : Bytes := (b.drop start).take size

theorem Bytes.length_trimRight_slice_le (start size : Nat) (b : Bytes) :
    (Bytes.trimRight (Bytes.slice start size b)).length ≤ size :=
  Nat.le_trans (Bytes.length_trimRight_le _) (List.length_take_le _ _)

/-- The storage request of a payload of full size. -/
def Request.parse (payload : Bytes) : Except InputFault Request := do
  let code := payload.getD 2 0
  match RequestType.ofNumber? code.toNat with
  | none => .error (.unknownRequestType code.toNat)
  | some requestType =>
    return {
      clientId := payload.getD 1 0
      requestType
      name := Bytes.trimRight (Bytes.slice 3 nameSize payload)
      fileId := payload.getD (3 + nameSize) 0
      position := UInt64.ofNat (Bytes.toNatLE (Bytes.slice (4 + nameSize) 8 payload))
      data := Bytes.trimRight (Bytes.slice (12 + nameSize) dataSize payload)
      name_le := Bytes.length_trimRight_slice_le ..
      data_le := Bytes.length_trimRight_slice_le .. }

/-- The call of a payload. Trailing zeros of name and data cannot be told from padding and are
dropped. -/
def Call.parse (payload : Bytes) : Except InputFault Call :=
  match payload with
  | [] => .error .emptyPayload
  | code :: _ =>
    -- the code says which size is asked for, so it is read first
    match Opcode.ofNumber? code.toNat with
    | none => .error (.unknownOpcode (toString code.toNat))
    | some opcode =>
      if payload.length = opcode.payloadSize then
        match opcode with
        | .initBookkeeper => .ok .initBookkeeper
        | .createClientAccount => .ok .createClientAccount
        | .deleteClient => .ok (.deleteClient (payload.getD 1 0))
        | .sendRequest => (Request.parse payload).map .sendRequest
      else .error (.payloadSize opcode opcode.payloadSize payload.length)

def Call.clientId? : Call → Option UInt8
  | .deleteClient clientId => some clientId
  | .sendRequest request => some request.clientId
  | _ => none

def Call.request? : Call → Option Request
  | .sendRequest request => some request
  | _ => none

end StorageAgent
