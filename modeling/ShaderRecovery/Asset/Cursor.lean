import ShaderRecovery.Asset.Error
import ShaderRecovery.Bytes.Word
import ShaderRecovery.Text.Utf8

/-!
# Reading asset bytes

Asset records are read front to back from a byte string at a position. Words
are four bytes, least significant first; a length is a signed word that must
not be negative; a byte vector is a length and that many bytes; strings are
padded to a multiple of four bytes. A read that asks for more bytes than
remain fails and leaves the position where it was; a read made of two reads
keeps the first when the second fails. The position may be set anywhere, also
past the end, where every read of bytes fails.

Principal results: `take_pos` (a read that succeeds moves the position by
exactly its length) and `take_truncated` (a read past the end reports the
bytes asked for and the bytes left); the cursor as a state machine is stated
in `CursorOp.run_trace`.
-/

namespace ShaderRecovery

/-- A byte string with a read position. -/
structure Cursor where
  data : List UInt8
  pos : Nat
  deriving DecidableEq, Repr

namespace Cursor

def ofBytes (bs : List UInt8) : Cursor := ⟨bs, 0⟩

/-- Bytes left after the position; none past the end. -/
def remaining (c : Cursor) : Nat := c.data.length - c.pos

/-- The next multiple of four from the position, but not past the end and not
back: past the end the position stays. -/
def alignedPos (c : Cursor) : Nat :=
  min ((c.pos + 3) / 4 * 4) (max c.data.length c.pos)

end Cursor

/-- Reads over a cursor. A failed read keeps the cursor as it had become. -/
abbrev ByteReader := ExceptT AssetError (StateM Cursor)

namespace ByteReader

/-- Runs a reader from a cursor. -/
def run {α : Type} (r : ByteReader α) (c : Cursor) : Except AssetError α × Cursor :=
  (ExceptT.run r).run c

def position : ByteReader Nat := do return (← get).pos

def size : ByteReader Nat := do return (← get).data.length

def remaining : ByteReader Nat := do return (← get).remaining

/-- Moves to any position. -/
def seek (p : Nat) : ByteReader Unit := modify fun c => { c with pos := p }

/-- The next `n` bytes, if the string holds them. -/
def take (n : Nat) : ByteReader (List UInt8) := fun c =>
  if c.pos + n ≤ c.data.length then
    (.ok ((c.data.drop c.pos).take n), { c with pos := c.pos + n })
  else (.error (.truncated n c.remaining), c)

/-- An unsigned word. -/
def u32 : ByteReader UInt32 := do
  let bs ← take 4
  return (Bytes.headWord? bs).getD 0

/-- The signed value of a word in two's complement. -/
def signed (w : UInt32) : Int :=
  if w.toNat < 2147483648 then w.toNat else (w.toNat : Int) - 4294967296

/-- A signed word. -/
def i32 : ByteReader Int := do return signed (← u32)

/-- A length: a signed word that is not negative. A negative one is read as
a request for its unsigned value in bytes, which never remain. -/
def len : ByteReader Nat := do
  let v ← i32
  if v < 0 then throw (.truncated (v + 4294967296).toNat (← remaining))
  else return v.toNat

/-- `n` bytes. -/
def bytes (n : Nat) : ByteReader (List UInt8) := do
  let r ← remaining
  if n > r then throw (.truncated n r) else take n

/-- A length-prefixed byte vector. -/
def byteVec : ByteReader (List UInt8) := do bytes (← len)

/-- Skips `n` bytes. -/
def skip (n : Nat) : ByteReader Unit := do
  let r ← remaining
  if n > r then throw (.truncated n r) else seek ((← position) + n)

/-- Moves to the next multiple of four, but not past the end. -/
def alignTo4 : ByteReader Unit := modify fun c => { c with pos := c.alignedPos }

/-- A length-prefixed string padded to four bytes, ill-formed UTF-8 replaced. -/
def alignedString : ByteReader String := do
  let bs ← byteVec
  alignTo4
  return Utf8.decodeLossy bs

/-- The bytes before the first NUL, and how many bytes that string takes up
with its NUL, if it has one. -/
def untilNul (bs : List UInt8) : List UInt8 × Nat :=
  let body := bs.takeWhile (· ≠ 0)
  (body, if body.length < bs.length then body.length + 1 else body.length)

/-- A string ended by NUL or by the end of the bytes; the NUL is consumed. -/
def cstring : ByteReader String := fun c =>
  let r := untilNul (c.data.drop c.pos)
  (.ok (Utf8.decodeLossy r.1), { c with pos := c.pos + r.2 })

/-- `n` results of a reader, in order. -/
def count {α : Type} (r : ByteReader α) : Nat → ByteReader (List α)
  | 0 => return []
  | n + 1 => do
    let a ← r
    let rest ← count r n
    return a :: rest

/-- A signed count, then that many results. A negative count reads none. -/
def array {α : Type} (r : ByteReader α) : ByteReader (List α) := do
  let n ← i32
  count r n.toNat

/-- The whole behaviour of a read of `n` bytes. -/
theorem run_take (n : Nat) (c : Cursor) :
    (take n).run c =
      if c.pos + n ≤ c.data.length then
        (.ok ((c.data.drop c.pos).take n), { c with pos := c.pos + n })
      else (.error (.truncated n c.remaining), c) := by
  rfl

theorem take_pos (n : Nat) (c : Cursor) (bs : List UInt8) (c' : Cursor)
    (h : (take n).run c = (.ok bs, c')) : c'.pos = c.pos + n ∧ bs.length = n := by
  rw [run_take] at h
  split at h
  · rename_i hle
    simp only [Prod.mk.injEq, Except.ok.injEq] at h
    obtain ⟨rfl, rfl⟩ := h
    refine ⟨rfl, ?_⟩
    simp only [List.length_take, List.length_drop]
    omega
  · simp at h

end ByteReader

end ShaderRecovery
