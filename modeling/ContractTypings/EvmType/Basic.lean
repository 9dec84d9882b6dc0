namespace ContractTypings

inductive Elementary where
  | int (bits : Nat)
  | uint (bits : Nat)
  | address
  | bool
  | string
  | fixedBytes (size : Nat)
  | bytes
  | function
  deriving Repr, DecidableEq

mutual

inductive EvmType where
  | elementary (type : Elementary)
  | array (item : EvmType) (size : Option Nat)
  | tuple (components : List Param)
  | unknown (raw : String)

structure Param where
  name : Option String
  kind : EvmType
  indexed : Bool

end

mutual

def EvmType.decEq : (a b : EvmType) → Decidable (a = b)
  | .elementary a, .elementary b =>
    if h : a = b then isTrue (by rw [h]) else isFalse (by simp [h])
  | .array a m, .array b n =>
    match a.decEq b, decEq m n with
    | isTrue h, isTrue hs => isTrue (by rw [h, hs])
    | isFalse h, _ => isFalse (by simp [h])
    | _, isFalse hs => isFalse (by simp [hs])
  | .tuple ps, .tuple qs =>
    match decEqParams ps qs with
    | isTrue h => isTrue (by rw [h])
    | isFalse h => isFalse (by simp [h])
  | .unknown r, .unknown s => if h : r = s then isTrue (by rw [h]) else isFalse (by simp [h])
  | .elementary _, .array _ _ | .elementary _, .tuple _ | .elementary _, .unknown _ => isFalse nofun
  | .array _ _, .elementary _ | .array _ _, .tuple _ | .array _ _, .unknown _ => isFalse nofun
  | .tuple _, .elementary _ | .tuple _, .array _ _ | .tuple _, .unknown _ => isFalse nofun
  | .unknown _, .elementary _ | .unknown _, .array _ _ | .unknown _, .tuple _ => isFalse nofun

def Param.decEq : (p q : Param) → Decidable (p = q)
  | ⟨n, k, i⟩, ⟨n', k', i'⟩ =>
    match k.decEq k', decEq n n', decEq i i' with
    | isTrue h, isTrue hn, isTrue hi => isTrue (by rw [h, hn, hi])
    | isFalse h, _, _ => isFalse (by simp [h])
    | _, isFalse h, _ => isFalse (by simp [h])
    | _, _, isFalse h => isFalse (by simp [h])

def decEqParams : (ps qs : List Param) → Decidable (ps = qs)
  | [], [] => isTrue rfl
  | [], _ :: _ => isFalse nofun
  | _ :: _, [] => isFalse nofun
  | p :: ps, q :: qs =>
    match p.decEq q, decEqParams ps qs with
    | isTrue h, isTrue hs => isTrue (by rw [h, hs])
    | isFalse h, _ => isFalse (by simp [h])
    | _, isFalse hs => isFalse (by simp [hs])

end

instance : DecidableEq EvmType := EvmType.decEq

instance : DecidableEq Param := Param.decEq

def Param.plain (name : String) (kind : EvmType) : Param :=
  ⟨if name = "" then none else some name, kind, false⟩

def Param.nameOrEmpty (p : Param) : String := p.name.getD ""

def EvmType.isReference : EvmType → Bool
  | .elementary .string | .elementary .bytes | .array _ _ | .tuple _ => true
  | _ => false

def sizeText : Option Nat → String
  | none => ""
  | some n => toString n

def Elementary.text : Elementary → String
  | .int bits => "int" ++ toString bits
  | .uint bits => "uint" ++ toString bits
  | .address => "address"
  | .bool => "bool"
  | .string => "string"
  | .fixedBytes size => "bytes" ++ toString size
  | .bytes => "bytes"
  | .function => "function"

mutual

def EvmType.text : EvmType → String
  | .elementary type => type.text
  | .array item size => item.text ++ "[" ++ sizeText size ++ "]"
  | .tuple components => "(" ++ ",".intercalate (kindTexts components) ++ ")"
  | .unknown raw => raw

def Param.kindText : Param → String
  | ⟨_, kind, _⟩ => kind.text

def kindTexts : List Param → List String
  | [] => []
  | p :: ps => p.kindText :: kindTexts ps

end

def signature (name : String) (params : List Param) : String :=
  name ++ "(" ++ ",".intercalate (kindTexts params) ++ ")"

def wordChars (s : String) : String := s.map fun c => if c.isAlphanum then c else '_'

mutual

def EvmType.symbol : EvmType → String
  | .elementary type => type.text
  | .array item size => item.symbol ++ "_array" ++ sizeText size
  | .tuple components => "tuple" ++ kindSymbols components ++ "_end"
  | .unknown raw => wordChars raw

def Param.kindSymbol : Param → String
  | ⟨_, kind, _⟩ => kind.symbol

def kindSymbols : List Param → String
  | [] => ""
  | p :: ps => "_" ++ p.kindSymbol ++ kindSymbols ps

end

def signatureSymbol (name : String) (params : List Param) : String :=
  name ++ kindSymbols params

mutual

def EvmType.unknowns : EvmType → List String
  | .elementary _ => []
  | .array item _ => item.unknowns
  | .tuple components => unknownKinds components
  | .unknown raw => [raw]

def Param.unknowns : Param → List String
  | ⟨_, kind, _⟩ => kind.unknowns

def unknownKinds : List Param → List String
  | [] => []
  | p :: ps => p.unknowns ++ unknownKinds ps

end

end ContractTypings
