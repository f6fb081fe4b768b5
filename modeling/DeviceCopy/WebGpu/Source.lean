/-!
# Shader text

Shader sources are built as trees of lines and blocks, so that indentation and braces come from one
place. Printing writes every line at four spaces per level and ends it with a line break.
-/

set_option autoImplicit false

namespace DeviceCopy

namespace WebGpu

inductive Source
  | line (text : String)
  | blank
  /-- A head with a body in braces. -/
  | block (head : String) (body : List Source)
  /-- A function whose parameters stand on lines of their own. -/
  | function (name : String) (parameters : List String) (body : List Source)

namespace Source

def indented (depth : Nat) (text : String) : String :=
  String.ofList (List.replicate (4 * depth) ' ') ++ text ++ "\n"

mutual

def print (depth : Nat) : Source → String
  | line text => indented depth text
  | blank => "\n"
  | block head body =>
      indented depth (head ++ " \x7b") ++ printAll (depth + 1) body ++ indented depth "\x7d"
  | function name parameters body =>
      indented depth ("fn " ++ name ++ "(") ++
        String.join (parameters.map (fun p => indented (depth + 1) (p ++ ","))) ++
        indented depth ") \x7b" ++ printAll (depth + 1) body ++ indented depth "\x7d"

def printAll (depth : Nat) : List Source → String
  | [] => ""
  | piece :: rest => print depth piece ++ printAll depth rest

end

end Source

end WebGpu

end DeviceCopy
