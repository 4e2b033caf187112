/-!
# Opcodes and request types

The first byte of a payload says which instruction it is. A storage request
says by one more byte what is asked of the storage.
-/
namespace StorageAgent

/-- The instructions of the agent program. -/
inductive Opcode where
  | initBookkeeper
  | createClientAccount
  | deleteClient
  | sendRequest
  deriving DecidableEq, Repr

namespace Opcode

def all : List Opcode := [initBookkeeper, createClientAccount, deleteClient, sendRequest]

def code : Opcode → UInt8
  | initBookkeeper => 0
  | createClientAccount => 1
  | deleteClient => 2
  | sendRequest => 3

def ofNumber? (n : Int) : Option Opcode := all.find? fun o => decide ((o.code.toNat : Int) = n)

def name : Opcode → String
  | initBookkeeper => "INIT_BOOKKEEPER"
  | createClientAccount => "CREATE_CLIENT_ACCOUNT"
  | deleteClient => "DELETE_CLIENT"
  | sendRequest => "SEND_REQUEST"

end Opcode

/-- What a storage request asks for. -/
inductive RequestType where
  | createBucket
  | createFile
  | writeFile
  | closeFile
  | deleteFile
  | setPosition
  | openFile
  | readFile
  deriving DecidableEq, Repr

namespace RequestType

def all : List RequestType :=
  [createBucket, createFile, writeFile, closeFile, deleteFile, setPosition, openFile, readFile]

def code : RequestType → UInt8
  | createBucket => 0
  | createFile => 1
  | writeFile => 2
  | closeFile => 3
  | deleteFile => 4
  | setPosition => 5
  | openFile => 6
  | readFile => 7

def ofNumber? (n : Int) : Option RequestType := all.find? fun t => decide ((t.code.toNat : Int) = n)

def name : RequestType → String
  | createBucket => "CREATE_BUCKET"
  | createFile => "CREATE_FILE"
  | writeFile => "WRITE_FILE"
  | closeFile => "CLOSE_FILE"
  | deleteFile => "DELETE_FILE"
  | setPosition => "SET_POSITION"
  | openFile => "OPEN_FILE"
  | readFile => "READ_FILE"

def ofName? (name : String) : Option RequestType := all.find? fun t => t.name == name

end RequestType
end StorageAgent
