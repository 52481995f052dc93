import ThrevoActions.Canonical

/-!
# SHA-256

`hashlib.sha256(…).hexdigest()`, as FIPS 180-4 defines the function. Digests only ever appear in
comparisons of two digests, so nothing but the function being one is used of it.
-/

namespace ThrevoActions

namespace Sha256

def roundConstants : List UInt32 :=
  [0x428a2f98, 0x71374491, 0xb5c0fbcf, 0xe9b5dba5, 0x3956c25b, 0x59f111f1, 0x923f82a4, 0xab1c5ed5,
    0xd807aa98, 0x12835b01, 0x243185be, 0x550c7dc3, 0x72be5d74, 0x80deb1fe, 0x9bdc06a7, 0xc19bf174,
    0xe49b69c1, 0xefbe4786, 0x0fc19dc6, 0x240ca1cc, 0x2de92c6f, 0x4a7484aa, 0x5cb0a9dc, 0x76f988da,
    0x983e5152, 0xa831c66d, 0xb00327c8, 0xbf597fc7, 0xc6e00bf3, 0xd5a79147, 0x06ca6351, 0x14292967,
    0x27b70a85, 0x2e1b2138, 0x4d2c6dfc, 0x53380d13, 0x650a7354, 0x766a0abb, 0x81c2c92e, 0x92722c85,
    0xa2bfe8a1, 0xa81a664b, 0xc24b8b70, 0xc76c51a3, 0xd192e819, 0xd6990624, 0xf40e3585, 0x106aa070,
    0x19a4c116, 0x1e376c08, 0x2748774c, 0x34b0bcb5, 0x391c0cb3, 0x4ed8aa4a, 0x5b9cca4f, 0x682e6ff3,
    0x748f82ee, 0x78a5636f, 0x84c87814, 0x8cc70208, 0x90befffa, 0xa4506ceb, 0xbef9a3f7, 0xc67178f2]

/-- The eight working words. -/
structure State where
  (a b c d e f g h : UInt32)

def initialState : State :=
  ⟨0x6a09e667, 0xbb67ae85, 0x3c6ef372, 0xa54ff53a, 0x510e527f, 0x9b05688c, 0x1f83d9ab, 0x5be0cd19⟩

def rotr (x n : UInt32) : UInt32 := (x >>> n) ||| (x <<< (32 - n))

/-- The padded message: a one bit, zeros, and the length in bits on eight bytes. -/
def pad (message : Bytes) : Bytes :=
  message ++ [0x80] ++ List.replicate ((119 - message.length % 64) % 64) 0
    ++ toBytesBig 8 (8 * message.length)

def words : Bytes → List UInt32
  | a :: b :: c :: d :: rest =>
    (a.toUInt32 <<< 24 ||| b.toUInt32 <<< 16 ||| c.toUInt32 <<< 8 ||| d.toUInt32) :: words rest
  | _ => []

/-- `n` more words of the message schedule, newest first. -/
def extend : ℕ → List UInt32 → List UInt32
  | 0, schedule => schedule
  | n + 1, schedule =>
    let w2 := schedule.getD 1 0
    let w7 := schedule.getD 6 0
    let w15 := schedule.getD 14 0
    let w16 := schedule.getD 15 0
    let s0 := rotr w15 7 ^^^ rotr w15 18 ^^^ (w15 >>> 3)
    let s1 := rotr w2 17 ^^^ rotr w2 19 ^^^ (w2 >>> 10)
    extend n ((w16 + s0 + w7 + s1) :: schedule)

def round (s : State) (constant word : UInt32) : State :=
  let s1 := rotr s.e 6 ^^^ rotr s.e 11 ^^^ rotr s.e 25
  let ch := (s.e &&& s.f) ^^^ ((~~~s.e) &&& s.g)
  let t1 := s.h + s1 + ch + constant + word
  let s0 := rotr s.a 2 ^^^ rotr s.a 13 ^^^ rotr s.a 22
  let maj := (s.a &&& s.b) ^^^ (s.a &&& s.c) ^^^ (s.b &&& s.c)
  ⟨t1 + s0 + maj, s.a, s.b, s.c, s.d + t1, s.e, s.f, s.g⟩

/-- The state after one block of sixteen words. -/
def compress (s : State) (block : List UInt32) : State :=
  let schedule := (extend 48 block.reverse).reverse
  let t := (roundConstants.zip schedule).foldl (fun s kw ↦ round s kw.1 kw.2) s
  ⟨s.a + t.a, s.b + t.b, s.c + t.c, s.d + t.d, s.e + t.e, s.f + t.f, s.g + t.g, s.h + t.h⟩

def blocks (message : List UInt32) : List (List UInt32) :=
  (List.range (message.length / 16)).map fun i ↦ (message.drop (16 * i)).take 16

/-- The eight words of the digest. -/
def digest (message : Bytes) : List UInt32 :=
  let s := (blocks (words (pad message))).foldl compress initialState
  [s.a, s.b, s.c, s.d, s.e, s.f, s.g, s.h]

/-- `hashlib.sha256(message).hexdigest()`. -/
def hexdigest (message : Bytes) : String :=
  String.ofList ((digest message).flatMap fun word ↦
    hex4 (word.toNat / 65536) ++ hex4 (word.toNat % 65536))

set_option maxRecDepth 4000 in
example : hexdigest [0x61, 0x62, 0x63] =
    "ba7816bf8f01cfea414140de5dae2223b00361a396177a9cb410ff61f20015ad" := by
  decide +kernel

end Sha256

end ThrevoActions
