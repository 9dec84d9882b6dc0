namespace ContractTypings.Text.Utf8

inductive Sequence where
  | char (c : Char) (further : Nat)
  | invalid (further : Nat)
  | incomplete
  deriving Repr, DecidableEq

def isContinuation (b : UInt8) : Bool := 0x80 ≤ b && b ≤ 0xBF

/-- Whether a second byte may follow a first one; no character has a longer form than it needs, and
none is a surrogate or beyond the last code point. -/
def isSecond (first second : UInt8) : Bool :=
  let low : UInt8 := if first == 0xE0 then 0xA0 else if first == 0xF0 then 0x90 else 0x80
  let high : UInt8 := if first == 0xED then 0x9F else if first == 0xF4 then 0x8F else 0xBF
  low ≤ second && second ≤ high

def decode (first : Nat) (rest : List UInt8) : Char :=
  Char.ofNat (rest.foldl (fun n b => n * 64 + b.toNat % 64) first)

def third (first : Nat) (second : UInt8) : List UInt8 → Sequence
  | [] => .incomplete
  | b :: _ => if isContinuation b then .char (decode first [second, b]) 2 else .invalid 1

def fourth (first : Nat) (second : UInt8) : List UInt8 → Sequence
  | [] => .incomplete
  | [b] => if isContinuation b then .incomplete else .invalid 1
  | b :: c :: _ =>
    if !isContinuation b then .invalid 1
    else if isContinuation c then .char (decode first [second, b, c]) 3
    else .invalid 2

def sequence (b : UInt8) (rest : List UInt8) : Sequence :=
  if b < 0x80 then .char (Char.ofNat b.toNat) 0
  else if b < 0xC2 || 0xF4 < b then .invalid 0
  else
    match rest with
    | [] => .incomplete
    | second :: rest =>
      if !isSecond b second then .invalid 0
      else if b < 0xE0 then .char (decode (b.toNat % 32) [second]) 1
      else if b < 0xF0 then third (b.toNat % 16) second rest
      else fourth (b.toNat % 8) second rest

theorem length_drop_lt (n : Nat) (b : UInt8) (rest : List UInt8) :
    (rest.drop n).length < (b :: rest).length := by
  rw [List.length_drop, List.length_cons]
  omega

def lossy : List UInt8 → List Char
  | [] => []
  | b :: rest =>
    match sequence b rest with
    | .char c n => c :: lossy (rest.drop n)
    | .invalid n => '\ufffd' :: lossy (rest.drop n)
    | .incomplete => ['\ufffd']
termination_by bs => bs.length
decreasing_by all_goals exact length_drop_lt ..

def fault? (position : Nat) : List UInt8 → Option (Nat × Sequence)
  | [] => none
  | b :: rest =>
    match sequence b rest with
    | .char _ n => fault? (position + n + 1) (rest.drop n)
    | fault => some (position, fault)
termination_by bs => bs.length
decreasing_by exact length_drop_lt ..

end ContractTypings.Text.Utf8
