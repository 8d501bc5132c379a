import Mathlib

/-! # SHA-256

The hash of FIPS 180-4 on lists of bytes, and its hexadecimal digest.  Only the
shape of the digest is used in proofs. -/

namespace EventPlatform.Lib.Sha256

structure HashState where
  a : UInt32
  b : UInt32
  c : UInt32
  d : UInt32
  e : UInt32
  f : UInt32
  g : UInt32
  h : UInt32
deriving DecidableEq

def roundConstants : List UInt32 :=
  [0x428a2f98, 0x71374491, 0xb5c0fbcf, 0xe9b5dba5, 0x3956c25b, 0x59f111f1, 0x923f82a4, 0xab1c5ed5,
    0xd807aa98, 0x12835b01, 0x243185be, 0x550c7dc3, 0x72be5d74, 0x80deb1fe, 0x9bdc06a7, 0xc19bf174,
    0xe49b69c1, 0xefbe4786, 0x0fc19dc6, 0x240ca1cc, 0x2de92c6f, 0x4a7484aa, 0x5cb0a9dc, 0x76f988da,
    0x983e5152, 0xa831c66d, 0xb00327c8, 0xbf597fc7, 0xc6e00bf3, 0xd5a79147, 0x06ca6351, 0x14292967,
    0x27b70a85, 0x2e1b2138, 0x4d2c6dfc, 0x53380d13, 0x650a7354, 0x766a0abb, 0x81c2c92e, 0x92722c85,
    0xa2bfe8a1, 0xa81a664b, 0xc24b8b70, 0xc76c51a3, 0xd192e819, 0xd6990624, 0xf40e3585, 0x106aa070,
    0x19a4c116, 0x1e376c08, 0x2748774c, 0x34b0bcb5, 0x391c0cb3, 0x4ed8aa4a, 0x5b9cca4f, 0x682e6ff3,
    0x748f82ee, 0x78a5636f, 0x84c87814, 0x8cc70208, 0x90befffa, 0xa4506ceb, 0xbef9a3f7, 0xc67178f2]

def initialHash : HashState :=
  ⟨0x6a09e667, 0xbb67ae85, 0x3c6ef372, 0xa54ff53a, 0x510e527f, 0x9b05688c, 0x1f83d9ab, 0x5be0cd19⟩

def rotr (x n : UInt32) : UInt32 := (x >>> n) ||| (x <<< (32 - n))

/-- A one bit, zeros up to 56 bytes modulo 64, and the length in bits. -/
def pad (message : List UInt8) : List UInt8 :=
  let bits := 8 * message.length
  message ++ [(0x80 : UInt8)] ++ List.replicate ((119 - message.length % 64) % 64) (0 : UInt8)
    ++ (List.range 8).map fun i => UInt8.ofNat (bits >>> (8 * (7 - i)))

def words : List UInt8 → List UInt32
  | a :: b :: c :: d :: rest =>
    (a.toUInt32 <<< 24 ||| b.toUInt32 <<< 16 ||| c.toUInt32 <<< 8 ||| d.toUInt32) :: words rest
  | _ => []

/-- Extend the message schedule by `n` words; the newest word is at the head. -/
def expand : Nat → List UInt32 → List UInt32
  | 0, ws => ws
  | n + 1, ws =>
    let w15 := ws.getD 14 0
    let w2 := ws.getD 1 0
    let s0 := rotr w15 7 ^^^ rotr w15 18 ^^^ (w15 >>> 3)
    let s1 := rotr w2 17 ^^^ rotr w2 19 ^^^ (w2 >>> 10)
    expand n ((s1 + ws.getD 6 0 + s0 + ws.getD 15 0) :: ws)

def mix (s : HashState) (k w : UInt32) : HashState :=
  let s1 := rotr s.e 6 ^^^ rotr s.e 11 ^^^ rotr s.e 25
  let choice := (s.e &&& s.f) ^^^ (~~~s.e &&& s.g)
  let temp1 := s.h + s1 + choice + k + w
  let s0 := rotr s.a 2 ^^^ rotr s.a 13 ^^^ rotr s.a 22
  let majority := (s.a &&& s.b) ^^^ (s.a &&& s.c) ^^^ (s.b &&& s.c)
  ⟨temp1 + (s0 + majority), s.a, s.b, s.c, s.d + temp1, s.e, s.f, s.g⟩

def compress (s : HashState) (block : List UInt32) : HashState :=
  let schedule := (expand 48 block.reverse).reverse
  let t := (roundConstants.zip schedule).foldl (fun s (k, w) => mix s k w) s
  ⟨s.a + t.a, s.b + t.b, s.c + t.c, s.d + t.d, s.e + t.e, s.f + t.f, s.g + t.g, s.h + t.h⟩

/-- Absorb `n` blocks of sixteen words. -/
def absorb : Nat → HashState → List UInt32 → HashState
  | 0, s, _ => s
  | n + 1, s, ws => absorb n (compress s (ws.take 16)) (ws.drop 16)

def sha256 (message : List UInt8) : HashState :=
  let ws := words (pad message)
  absorb (ws.length / 16) initialHash ws

def hexWord (w : UInt32) : List Char :=
  (List.range 8).map fun i => Nat.digitChar (w.toNat >>> (4 * (7 - i)) % 16)

def hexdigest (s : HashState) : List Char :=
  [s.a, s.b, s.c, s.d, s.e, s.f, s.g, s.h].flatMap hexWord

example : hexdigest (sha256 "abc".toUTF8.data.toList) =
    "ba7816bf8f01cfea414140de5dae2223b00361a396177a9cb410ff61f20015ad".toList := by decide +kernel

theorem length_hexdigest (s : HashState) : (hexdigest s).length = 64 := by
  simp [hexdigest, hexWord]

theorem mem_hexdigest {s : HashState} {c : Char} (member : c ∈ hexdigest s) :
    ∃ n < 16, c = Nat.digitChar n := by
  obtain ⟨w, _, inWord⟩ := List.mem_flatMap.mp member
  obtain ⟨i, _, rfl⟩ := List.mem_map.mp inWord
  exact ⟨_, Nat.mod_lt _ (by decide), rfl⟩

end EventPlatform.Lib.Sha256
