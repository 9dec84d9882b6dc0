import ContractTypings.EvmType.Basic

namespace ContractTypings

mutual

def EvmType.erased : EvmType → EvmType
  | .elementary type => .elementary type
  | .array item size => .array item.erased size
  | .tuple components => .tuple (erasedParams components)
  | .unknown raw => .unknown raw

def Param.erased : Param → Param
  | ⟨_, kind, _⟩ => ⟨none, kind.erased, false⟩

def erasedParams : List Param → List Param
  | [] => []
  | p :: ps => p.erased :: erasedParams ps

end

inductive Lexeme where
  | elementary (type : Elementary)
  | unknown (raw : String)
  | array (size : Option Nat)
  | opening
  | closing

mutual

def EvmType.lexemes : EvmType → List Lexeme
  | .elementary type => [.elementary type]
  | .array item size => item.lexemes ++ [.array size]
  | .tuple components => .opening :: (kindLexemes components ++ [.closing])
  | .unknown raw => [.unknown raw]

def Param.kindLexemes : Param → List Lexeme
  | ⟨_, kind, _⟩ => kind.lexemes

def kindLexemes : List Param → List Lexeme
  | [] => []
  | p :: ps => p.kindLexemes ++ kindLexemes ps

end

namespace Lexeme

def word : Lexeme → String
  | .elementary type => type.text
  | .unknown raw => wordChars raw
  | .array size => "array" ++ sizeText size
  | .opening => "tuple"
  | .closing => "end"

/-- Reads one more piece. The types read so far are in levels, one for each open tuple and one
around them, innermost level and last type first. -/
def read : List (List Param) → Lexeme → List (List Param)
  | ps :: levels, .elementary type => (⟨none, .elementary type, false⟩ :: ps) :: levels
  | ps :: levels, .unknown raw => (⟨none, .unknown raw, false⟩ :: ps) :: levels
  | (p :: ps) :: levels, .array size => (⟨none, .array p.kind size, false⟩ :: ps) :: levels
  | levels, .opening => [] :: levels
  | inner :: ps :: levels, .closing => (⟨none, .tuple inner.reverse, false⟩ :: ps) :: levels
  | levels, _ => levels

end Lexeme

end ContractTypings
