/-! Where random bytes come from: batches that are drawn one after the other. -/

namespace Chip8

structure Entropy where
  /-- The batch of each number. -/
  refill : Nat → List UInt8
  /-- The number of the next batch. -/
  next : Nat
  /-- What is left of the batch before it. -/
  pending : List UInt8

namespace Entropy

/-- Nothing drawn yet. -/
def ofBatches (refill : Nat → List UInt8) : Entropy := ⟨refill, 0, []⟩

/-- The same bytes over and over. -/
def repeating (bytes : List UInt8) : Entropy := ofBatches fun _ => bytes

/-- An empty batch counts as one zero. -/
def draw (e : Entropy) : UInt8 × Entropy :=
  match e.pending with
  | b :: bs => (b, { e with pending := bs })
  | [] =>
    match e.refill e.next with
    | b :: bs => (b, { e with next := e.next + 1, pending := bs })
    | [] => (0, { e with next := e.next + 1 })

/-- The next `n` bytes. -/
def drawMany : Nat → Entropy → List UInt8 × Entropy
  | 0, e => ([], e)
  | n + 1, e =>
    let (b, e) := e.draw
    let (bs, e) := drawMany n e
    (b :: bs, e)

end Entropy

end Chip8
