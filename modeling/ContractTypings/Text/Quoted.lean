namespace ContractTypings.Text

namespace Quoted

def escape (c : Char) : List Char :=
  if c = '"' ∨ c = '\\' then ['\\', c] else [c]

def encode (cs : List Char) : List Char :=
  '"' :: cs.flatMap escape ++ ['"']

end Quoted

def quote (s : String) : String := String.ofList (Quoted.encode s.toList)

namespace Quoted

def inside? : List Char → Option (List Char × List Char)
  | [] => none
  | '"' :: cs => some ([], cs)
  | '\\' :: c :: cs => (inside? cs).map fun (said, rest) => (c :: said, rest)
  | c :: cs => (inside? cs).map fun (said, rest) => (c :: said, rest)

def decode? : List Char → Option (List Char × List Char)
  | '"' :: cs => inside? cs
  | _ => none

theorem inside?_quote (cs : List Char) : inside? ('"' :: cs) = some ([], cs) := rfl

theorem inside?_escaped (c : Char) (cs : List Char) :
    inside? ('\\' :: c :: cs) = (inside? cs).map fun (said, rest) => (c :: said, rest) := rfl

theorem inside?_plain {c : Char} (cs : List Char) (hq : c ≠ '"') (hb : c ≠ '\\') :
    inside? (c :: cs) = (inside? cs).map fun (said, rest) => (c :: said, rest) :=
  inside?.eq_4 c cs hq fun _ _ h _ => hb h

theorem length_lt_of_inside? {cs said rest : List Char} (h : inside? cs = some (said, rest)) :
    rest.length < cs.length := by
  fun_induction inside? cs generalizing said with
  | case1 => cases h
  | case2 cs =>
    cases h
    exact Nat.lt_succ_self _
  | case3 c cs ih =>
    obtain ⟨⟨said', rest'⟩, hcs, he⟩ := Option.map_eq_some_iff.mp h
    cases he
    exact Nat.lt_succ_of_lt (Nat.lt_succ_of_lt (ih hcs))
  | case4 c cs _ _ ih =>
    obtain ⟨⟨said', rest'⟩, hcs, he⟩ := Option.map_eq_some_iff.mp h
    cases he
    exact Nat.lt_succ_of_lt (ih hcs)

end Quoted

def unquote? (s : String) : Option (String × String) :=
  (Quoted.decode? s.toList).map fun (said, rest) => (String.ofList said, String.ofList rest)

namespace Quoted

theorem inside?_escape (c : Char) (cs : List Char) :
    inside? (escape c ++ cs) = (inside? cs).map fun (said, rest) => (c :: said, rest) := by
  unfold escape
  split
  · exact inside?_escaped c cs
  next h =>
    rw [not_or] at h
    exact inside?_plain cs h.1 h.2

theorem inside?_flatMap_escape (cs rest : List Char) :
    inside? (cs.flatMap escape ++ '"' :: rest) = some (cs, rest) := by
  -- after each character the reader is past its backslash, so a run of them is read in pairs
  induction cs with
  | nil => exact inside?_quote rest
  | cons c cs ih =>
    rw [List.flatMap_cons, List.append_assoc, inside?_escape, ih]
    rfl

theorem encode_append (cs rest : List Char) :
    encode cs ++ rest = '"' :: (cs.flatMap escape ++ '"' :: rest) := by
  rw [encode, List.cons_append, List.cons_append, List.append_assoc]
  rfl

theorem decode?_encode_append (cs rest : List Char) :
    decode? (encode cs ++ rest) = some (cs, rest) := by
  rw [encode_append]
  exact inside?_flatMap_escape cs rest

end Quoted

theorem toList_quote (s : String) : (quote s).toList = Quoted.encode s.toList :=
  String.toList_ofList

theorem unquote?_quote_append (s rest : String) : unquote? (quote s ++ rest) = some (s, rest) := by
  rw [unquote?, String.toList_append, toList_quote, Quoted.decode?_encode_append]
  simp

theorem quote_append_inj {s t rest rest' : String} (h : quote s ++ rest = quote t ++ rest') :
    s = t ∧ rest = rest' := by
  have hread : some (s, rest) = some (t, rest') := by
    rw [← unquote?_quote_append s rest, h, unquote?_quote_append]
  exact Prod.mk.inj (Option.some.inj hread)

end ContractTypings.Text
