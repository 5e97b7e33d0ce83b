import SkfService.Text.Json

/-! The request and response records of the JSON-RPC protocol. -/

set_option autoImplicit false

namespace SkfService

open Text

structure RpcRequest where
  method : String
  params : List Json
  id : Option Json
  apiVersion : Option UInt32

structure RpcResponse where
  error : Int32
  result : Json
  message : Option String
  id : Option Json

namespace RpcResponse

def ok (result : Json) (id : Option Json) : RpcResponse := ⟨0, result, none, id⟩

def err (code : Int32) (msg : String) (id : Option Json) : RpcResponse :=
  ⟨code, .null, some msg, id⟩

@[simp] theorem ok_id (result : Json) (id : Option Json) : (ok result id).id = id := rfl

@[simp] theorem err_id (code : Int32) (msg : String) (id : Option Json) :
    (err code msg id).id = id := rfl

@[simp] theorem ok_error (result : Json) (id : Option Json) : (ok result id).error = 0 := rfl

@[simp] theorem err_error (code : Int32) (msg : String) (id : Option Json) :
    (err code msg id).error = code := rfl

end RpcResponse

inductive Language
  | EN
  | CN
  deriving DecidableEq

def Language.pick (lang : Language) (cn en : String) : String :=
  match lang with
  | .CN => cn
  | .EN => en

end SkfService
