import ContractTypings.Text.Utf8

namespace ContractTypings

inductive FormatterRun where
  | absent
  | finished (output : ByteArray)
  | exited (code : Nat) (errors : ByteArray)
  | killed (signal : String) (errors : ByteArray)

abbrev Formatter := String → FormatterRun

namespace Formatter

open Text

def utf8Message (position : Nat) : Utf8.Sequence → String
  | .invalid n =>
    "invalid utf-8 sequence of " ++ toString (n + 1) ++ " bytes from index " ++ toString position
  | _ => "incomplete utf-8 byte sequence from index " ++ toString position

def exitMessage (status : String) (errors : ByteArray) : String :=
  "`prettier` exited with code " ++ status ++ ":\n" ++ String.ofList (Utf8.lossy errors.toList)

def format (f : Formatter) (source : String) : Except String String :=
  match f source with
  | .absent => .error "failed to spawn `prettier`: No such file or directory (os error 2)"
  | .exited code errors => .error (exitMessage ("exit status: " ++ toString code) errors)
  | .killed signal errors => .error (exitMessage ("signal: " ++ signal) errors)
  | .finished output =>
    match Utf8.fault? 0 output.toList with
    | some (position, fault) =>
      .error ("`prettier` emitted invalid utf-8: " ++ utf8Message position fault)
    | none => .ok (String.ofList (Utf8.lossy output.toList))

def formatOrKeep (f : Formatter) (source : String) : String :=
  match f.format source with
  | .ok formatted => formatted
  | .error _ => source

def absent : Formatter := fun _ => .absent

end Formatter

end ContractTypings
