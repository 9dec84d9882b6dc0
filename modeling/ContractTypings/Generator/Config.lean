import ContractTypings.Abi.Json
import ContractTypings.Path

namespace ContractTypings

open Abi Json Decoder

structure Config where
  cwd : Path := ⟨""⟩
  outDir : Option Path := none
  inputDir : Option Path := none
  allFiles : List Path := []
  prettier : Bool := false
  deriving Repr, DecidableEq

namespace Config

def pathDecoder : Decoder Path := fun source room t => (path source room t).map Path.mk

def decoder : Decoder Config := record "Config" {} [
  slot "cwd" pathDecoder fun v c => { c with cwd := v },
  slot "outDir" (optional pathDecoder) fun v c => { c with outDir := v },
  slot "inputDir" (optional pathDecoder) fun v c => { c with inputDir := v },
  slot "allFiles" (list pathDecoder) fun v c => { c with allFiles := v },
  slot "prettier" bool fun v c => { c with prettier := v }]

def pathValue (p : Path) : Value := .string p.text

def value (c : Config) : Value := .object
  ([("cwd", pathValue c.cwd)] ++
    member? "outDir" pathValue c.outDir ++
    member? "inputDir" pathValue c.inputDir ++
    [("allFiles", .array (c.allFiles.map pathValue)), ("prettier", .bool c.prettier)])

end Config

end ContractTypings
