/-!
# SHA-256

The FIPS 180-4 hash of a byte string, and `sha256Hex`, the lower-case
hexadecimal text of the hash of a string's UTF-8 bytes.
-/

namespace StackOperator.Text

/-- The first 32 bits of the fractional parts of the cube roots of the first 64 primes. -/
def sha256K : Array UInt32 := #[
  0x428a2f98, 0x71374491, 0xb5c0fbcf, 0xe9b5dba5, 0x3956c25b, 0x59f111f1, 0x923f82a4, 0xab1c5ed5,
  0xd807aa98, 0x12835b01, 0x243185be, 0x550c7dc3, 0x72be5d74, 0x80deb1fe, 0x9bdc06a7, 0xc19bf174,
  0xe49b69c1, 0xefbe4786, 0x0fc19dc6, 0x240ca1cc, 0x2de92c6f, 0x4a7484aa, 0x5cb0a9dc, 0x76f988da,
  0x983e5152, 0xa831c66d, 0xb00327c8, 0xbf597fc7, 0xc6e00bf3, 0xd5a79147, 0x06ca6351, 0x14292967,
  0x27b70a85, 0x2e1b2138, 0x4d2c6dfc, 0x53380d13, 0x650a7354, 0x766a0abb, 0x81c2c92e, 0x92722c85,
  0xa2bfe8a1, 0xa81a664b, 0xc24b8b70, 0xc76c51a3, 0xd192e819, 0xd6990624, 0xf40e3585, 0x106aa070,
  0x19a4c116, 0x1e376c08, 0x2748774c, 0x34b0bcb5, 0x391c0cb3, 0x4ed8aa4a, 0x5b9cca4f, 0x682e6ff3,
  0x748f82ee, 0x78a5636f, 0x84c87814, 0x8cc70208, 0x90befffa, 0xa4506ceb, 0xbef9a3f7, 0xc67178f2]

/-- The first 32 bits of the fractional parts of the square roots of the first 8 primes. -/
def sha256Init : Array UInt32 :=
  #[0x6a09e667, 0xbb67ae85, 0x3c6ef372, 0xa54ff53a, 0x510e527f, 0x9b05688c, 0x1f83d9ab, 0x5be0cd19]

/-- Rotate right. -/
def rotr (x : UInt32) (n : UInt32) : UInt32 := (x >>> n) ||| (x <<< (32 - n))

/-- A big-endian word from four bytes of a block. -/
def wordAt (block : Array UInt8) (i : Nat) : UInt32 :=
  let b (j : Nat) : UInt32 := (block.getD (4 * i + j) 0).toUInt32
  (b 0 <<< 24) ||| (b 1 <<< 16) ||| (b 2 <<< 8) ||| b 3

/-- The 64-word message schedule of one 64-byte block. -/
def schedule (block : Array UInt8) : Array UInt32 :=
  let w0 := (List.range 16).toArray.map (wordAt block)
  (List.range 48).foldl (fun w i =>
    let t := i + 16
    let x := w.getD (t - 15) 0
    let y := w.getD (t - 2) 0
    let s0 := rotr x 7 ^^^ rotr x 18 ^^^ (x >>> 3)
    let s1 := rotr y 17 ^^^ rotr y 19 ^^^ (y >>> 10)
    w.push (w.getD (t - 16) 0 + s0 + w.getD (t - 7) 0 + s1)) w0

/-- Mix one block into the state. -/
def compress (h : Array UInt32) (block : Array UInt8) : Array UInt32 :=
  let w := schedule block
  let init := (h.getD 0 0, h.getD 1 0, h.getD 2 0, h.getD 3 0,
               h.getD 4 0, h.getD 5 0, h.getD 6 0, h.getD 7 0)
  let (a, b, c, d, e, f, g, hh) := (List.range 64).foldl (fun st i =>
    let (a, b, c, d, e, f, g, hh) := st
    let s1 := rotr e 6 ^^^ rotr e 11 ^^^ rotr e 25
    let ch := (e &&& f) ^^^ ((~~~ e) &&& g)
    let t1 := hh + s1 + ch + sha256K.getD i 0 + w.getD i 0
    let s0 := rotr a 2 ^^^ rotr a 13 ^^^ rotr a 22
    let maj := (a &&& b) ^^^ (a &&& c) ^^^ (b &&& c)
    let t2 := s0 + maj
    (t1 + t2, a, b, c, d + t1, e, f, g)) init
  #[h.getD 0 0 + a, h.getD 1 0 + b, h.getD 2 0 + c, h.getD 3 0 + d,
    h.getD 4 0 + e, h.getD 5 0 + f, h.getD 6 0 + g, h.getD 7 0 + hh]

/-- The message padded to a multiple of 64 bytes: a one bit, zeros, and the bit length. -/
def sha256Pad (msg : List UInt8) : List UInt8 :=
  let len := msg.length
  let zeros := (64 + 56 - (len + 1) % 64) % 64
  let bits := 8 * len
  msg ++ [0x80] ++ List.replicate zeros 0 ++
    (List.range 8).reverse.map (fun i => (bits / Nat.pow 2 (8 * i) % 256).toUInt8)

/-- Split into blocks of 64 bytes. -/
def blocksOf (bytes : List UInt8) : List (Array UInt8) :=
  (List.range (bytes.length / 64)).map fun i => ((bytes.drop (64 * i)).take 64).toArray

/-- The SHA-256 hash of a byte string. -/
def sha256 (msg : List UInt8) : List UInt8 :=
  let h := (blocksOf (sha256Pad msg)).foldl compress sha256Init
  h.toList.flatMap fun (x : UInt32) => [(x >>> 24).toUInt8, (x >>> 16).toUInt8, (x >>> 8).toUInt8, x.toUInt8]

/-- Lower-case hexadecimal of bytes. -/
def hexOf (bytes : List UInt8) : String :=
  let digits := "0123456789abcdef".toList
  String.ofList (bytes.flatMap fun b => [digits.getD (b.toNat / 16) '0', digits.getD (b.toNat % 16) '0'])

/-- The hash of a string's UTF-8 bytes in lower-case hexadecimal. -/
def sha256Hex (s : String) : String := hexOf (sha256 s.toUTF8.toList)

end StackOperator.Text
