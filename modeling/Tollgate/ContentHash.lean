import Tollgate.Count
import Tollgate.Text.Hex

namespace Tollgate.ContentHash

abbrev Lanes := Vector UInt32 16

abbrev Chain := Vector UInt32 8

def start : Chain :=
  #v[0x6A09E667, 0xBB67AE85, 0x3C6EF372, 0xA54FF53A, 0x510E527F, 0x9B05688C, 0x1F83D9AB,
    0x5BE0CD19]

def chunkStart : UInt32 := 1

def chunkEnd : UInt32 := 2

def parent : UInt32 := 4

def root : UInt32 := 8

def rotr (x k : UInt32) : UInt32 := (x >>> k) ||| (x <<< (32 - k))

def quarter (s : Lanes) (a b c d : Fin 16) (x y : UInt32) : Lanes :=
  let va := s[a] + s[b] + x
  let vd := rotr (s[d] ^^^ va) 16
  let vc := s[c] + vd
  let vb := rotr (s[b] ^^^ vc) 12
  let va := va + vb + y
  let vd := rotr (vd ^^^ va) 8
  let vc := vc + vd
  let vb := rotr (vb ^^^ vc) 7
  (((s.set a va).set b vb).set c vc).set d vd

def round (s m : Lanes) : Lanes :=
  let s := quarter s 0 4 8 12 m[0] m[1]
  let s := quarter s 1 5 9 13 m[2] m[3]
  let s := quarter s 2 6 10 14 m[4] m[5]
  let s := quarter s 3 7 11 15 m[6] m[7]
  let s := quarter s 0 5 10 15 m[8] m[9]
  let s := quarter s 1 6 11 12 m[10] m[11]
  let s := quarter s 2 7 8 13 m[12] m[13]
  quarter s 3 4 9 14 m[14] m[15]

def permute (m : Lanes) : Lanes :=
  #v[m[2], m[6], m[3], m[10], m[7], m[0], m[4], m[13], m[1], m[11], m[12], m[5], m[9], m[14],
    m[15], m[8]]

def rounds : Nat → Lanes → Lanes → Lanes
  | 0, s, _ => s
  | k + 1, s, m => rounds k (round s m) (permute m)

-- One block on its way to a chaining value or to the final hash.
structure Node where
  chain : Chain
  block : Lanes
  counter : Nat
  length : Nat
  flags : UInt32

def Node.compress (n : Node) (extra : UInt32) : Chain :=
  let h := n.chain
  let s : Lanes := #v[h[0], h[1], h[2], h[3], h[4], h[5], h[6], h[7], start[0], start[1],
    start[2], start[3], UInt32.ofNat n.counter, UInt32.ofNat (n.counter / 4294967296),
    UInt32.ofNat n.length, n.flags ||| extra]
  let r := rounds 7 s n.block
  #v[r[0] ^^^ r[8], r[1] ^^^ r[9], r[2] ^^^ r[10], r[3] ^^^ r[11], r[4] ^^^ r[12],
    r[5] ^^^ r[13], r[6] ^^^ r[14], r[7] ^^^ r[15]]

def littleEndian (bytes : List UInt8) : UInt32 :=
  bytes.foldr (fun b n => n * 256 + b.toUInt32) 0

def blockLanes (bytes : List UInt8) : Lanes :=
  Vector.ofFn fun (i : Fin 16) => littleEndian ((bytes.drop (4 * i)).take 4)

-- Pieces of `size` bytes; the last one may be shorter, and there is always one.
def pieces (size : Nat) : Nat → List UInt8 → List (List UInt8)
  | 0, bytes => [bytes]
  | more + 1, bytes =>
    match bytes.drop size with
    | [] => [bytes]
    | rest => bytes.take size :: pieces size more rest

-- The last block of a chunk, after the blocks before it went into the chaining value.
def chunkBlocks (counter : Nat) (chain : Chain) (flags : UInt32) : List (List UInt8) → Node
  | [] => ⟨chain, blockLanes [], counter, 0, flags ||| chunkEnd⟩
  | [last] => ⟨chain, blockLanes last, counter, last.length, flags ||| chunkEnd⟩
  | block :: rest =>
    let node : Node := ⟨chain, blockLanes block, counter, block.length, flags⟩
    chunkBlocks counter (node.compress 0) 0 rest

def chunkNode (counter : Nat) (bytes : List UInt8) : Node :=
  chunkBlocks counter start chunkStart (pieces 64 16 bytes)

def parentNode (left right : Chain) : Node :=
  ⟨start, Vector.cast (by decide) (left ++ right), 0, 64, parent⟩

-- The tree over `chunks`, the first of which has number `counter`; `fuel` bounds its height.
def tree : Nat → Nat → List (List UInt8) → Node
  | 0, counter, chunks => chunkNode counter (chunks.headD [])
  | fuel + 1, counter, chunks =>
    if chunks.length ≤ 1 then chunkNode counter (chunks.headD [])
    else
      let left := pow2 (chunks.length - 1).log2
      parentNode ((tree fuel counter (chunks.take left)).compress 0)
        ((tree fuel (counter + left) (chunks.drop left)).compress 0)

def wordBytes (w : UInt32) : List UInt8 :=
  [w.toUInt8, (w >>> 8).toUInt8, (w >>> 16).toUInt8, (w >>> 24).toUInt8]

def digest (bytes : List UInt8) : List UInt8 :=
  let chunks := pieces 1024 (bytes.length / 1024 + 1) bytes
  let node := tree (chunks.length.log2 + 2) 0 chunks
  (node.compress root).toList.flatMap wordBytes

end Tollgate.ContentHash

namespace Tollgate

-- The identity of a module: the BLAKE3 hash of its source, in hexadecimal.
def contentHash (bytes : List UInt8) : String := Text.hex (ContentHash.digest bytes)

end Tollgate
