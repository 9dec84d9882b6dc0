namespace ContractTypings.Abi

structure Component where
  internalType : Option String := none
  name : String := ""
  type : String
  components : List Component := []
  indexed : Option Bool := none
  deriving Repr

structure Item where
  inputs : List Component := []
  stateMutability : Option String := none
  type : String := ""
  name : Option String := none
  outputs : List Component := []
  anonymous : Option Bool := none
  constant : Option Bool := none
  payable : Option Bool := none
  deriving Repr

mutual

def Component.decEq : (a b : Component) → Decidable (a = b)
  | ⟨i, n, t, c, x⟩, ⟨i', n', t', c', x'⟩ =>
    if h : i = i' ∧ n = n' ∧ t = t' ∧ x = x' then
      match decEqComponents c c' with
      | isTrue hc => isTrue (by simp [h, hc])
      | isFalse hc => isFalse (by simp [hc])
    else isFalse (by
      simp only [Component.mk.injEq]
      exact fun e => h ⟨e.1, e.2.1, e.2.2.1, e.2.2.2.2⟩)

def decEqComponents : (as bs : List Component) → Decidable (as = bs)
  | [], [] => isTrue rfl
  | [], _ :: _ => isFalse nofun
  | _ :: _, [] => isFalse nofun
  | a :: as, b :: bs =>
    match a.decEq b, decEqComponents as bs with
    | isTrue h, isTrue hs => isTrue (by rw [h, hs])
    | isFalse h, _ => isFalse (by simp [h])
    | _, isFalse hs => isFalse (by simp [hs])

end

instance : DecidableEq Component := Component.decEq

deriving instance DecidableEq for Item

abbrev Items := List Item

mutual

def Component.typeOnly : Component → Component
  | ⟨_, _, type, components, _⟩ => { type, components := typesOnly components }

def typesOnly : List Component → List Component
  | [] => []
  | c :: cs => c.typeOnly :: typesOnly cs

end

def Component.inFunction : Component → Component
  | ⟨_, name, type, components, _⟩ => { name, type, components := typesOnly components }

def Component.inEvent : Component → Component
  | ⟨_, name, type, components, indexed⟩ =>
    { name, type, components := typesOnly components, indexed }

def Item.functionPart (i : Item) : Item :=
  { i with
    inputs := i.inputs.map Component.inFunction
    outputs := i.outputs.map Component.inFunction
    anonymous := none }

def Item.eventPart (i : Item) : Item :=
  { type := i.type, name := i.name, inputs := i.inputs.map Component.inEvent,
    anonymous := i.anonymous }

end ContractTypings.Abi
