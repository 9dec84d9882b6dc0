import ContractTypings.Abi.Item
import ContractTypings.EvmType.Basic
import ContractTypings.Text.Basic

namespace ContractTypings

open Text

namespace EvmType

def sizeBound : Nat := 18446744073709551616

/-- Splits `item[size]` at its last bracket; the item is a non-empty single line and the size,
which may be left out, an ASCII number below the bound. -/
def splitArray? (cs : List Char) : Option (List Char × Option Nat) :=
  match cs.reverse with
  | ']' :: back =>
    let digits := (back.takeWhile isAsciiDigit).reverse
    match back.dropWhile isAsciiDigit with
    | '[' :: item =>
      if item = [] ∨ '\n' ∈ item then none
      else if digits = [] then some (item.reverse, none)
      else (sizeBelow? sizeBound digits).map fun size => (item.reverse, some size)
    | _ => none
  | _ => none

theorem length_lt_of_splitArray? {cs item : List Char} {size : Option Nat}
    (h : splitArray? cs = some (item, size)) : item.length < cs.length := by
  unfold splitArray? at h
  split at h
  next back hb =>
    have hlen : cs.length = back.length + 1 := by rw [← List.length_reverse, hb]; rfl
    simp only at h
    split at h
    next rest hr =>
      have hsuffix : (back.dropWhile isAsciiDigit).length ≤ back.length :=
        (List.dropWhile_sublist _).length_le
      rw [hr, List.length_cons] at hsuffix
      have hitem : item = rest.reverse := by
        split at h
        · cases h
        · split at h
          · simpa using (congrArg (Option.map Prod.fst) h).symm
          · obtain ⟨n, -, hn⟩ := Option.map_eq_some_iff.1 h
            exact (congrArg Prod.fst hn).symm
      rw [hitem, List.length_reverse]
      omega
    · cases h
  · cases h

def after? (word : String) (cs : List Char) : Option (List Char) :=
  word.toList.isPrefixOf? cs

def width? (word : String) (cs : List Char) : Option Nat :=
  match after? word cs with
  | some [] => some 256
  | some digits => sizeBelow? sizeBound digits
  | none => none

def byteCount? (cs : List Char) : Option Nat :=
  (after? "bytes" cs).bind (sizeBelow? sizeBound)

def ofWord (cs : List Char) (components : List Param) : EvmType :=
  match width? "uint" cs, width? "int" cs, byteCount? cs with
  | some bits, _, _ => .elementary (.uint bits)
  | _, some bits, _ => .elementary (.int bits)
  | _, _, some size => .elementary (.fixedBytes size)
  | none, none, none =>
    match String.ofList cs with
    | "address" => .elementary .address
    | "bool" => .elementary .bool
    | "string" => .elementary .string
    | "bytes" => .elementary .bytes
    | "function" => .elementary .function
    | "tuple" => .tuple components
    | raw => .unknown raw

def ofChars (cs : List Char) (components : List Param) : EvmType :=
  match _h : splitArray? (trimChars cs) with
  | some (item, size) => .array (ofChars item components) size
  | none => ofWord (trimChars cs) components
termination_by cs.length
decreasing_by exact Nat.lt_of_lt_of_le (length_lt_of_splitArray? _h) (length_trimChars_le cs)

end EvmType

mutual

def Param.ofComponent : Abi.Component → Param
  | ⟨_, name, type, components, indexed⟩ =>
    ⟨if name = "" then none else some name,
      EvmType.ofChars type.toList (Param.ofComponents components), indexed.getD false⟩

def Param.ofComponents : List Abi.Component → List Param
  | [] => []
  | c :: cs => Param.ofComponent c :: Param.ofComponents cs

end

def EvmType.parse (type : String) (components : List Abi.Component) : EvmType :=
  EvmType.ofChars type.toList (Param.ofComponents components)

end ContractTypings
