import ModuleSharing.Json.Printer

/-!
# Fingerprints

A fingerprint is the SHA-256 digest of a sequence of parts.  A text is followed by a zero byte; an
optional text starts with a byte that says whether it is there.
-/

namespace ModuleSharing.Fingerprint

/-! ## The digest -/

/-- The first 32 bits of the fractional parts of the cube roots of the first 64 primes. -/
def roundConstants : List UInt32 :=
  [0x428a2f98, 0x71374491, 0xb5c0fbcf, 0xe9b5dba5, 0x3956c25b, 0x59f111f1, 0x923f82a4, 0xab1c5ed5,
    0xd807aa98, 0x12835b01, 0x243185be, 0x550c7dc3, 0x72be5d74, 0x80deb1fe, 0x9bdc06a7, 0xc19bf174,
    0xe49b69c1, 0xefbe4786, 0x0fc19dc6, 0x240ca1cc, 0x2de92c6f, 0x4a7484aa, 0x5cb0a9dc, 0x76f988da,
    0x983e5152, 0xa831c66d, 0xb00327c8, 0xbf597fc7, 0xc6e00bf3, 0xd5a79147, 0x06ca6351, 0x14292967,
    0x27b70a85, 0x2e1b2138, 0x4d2c6dfc, 0x53380d13, 0x650a7354, 0x766a0abb, 0x81c2c92e, 0x92722c85,
    0xa2bfe8a1, 0xa81a664b, 0xc24b8b70, 0xc76c51a3, 0xd192e819, 0xd6990624, 0xf40e3585, 0x106aa070,
    0x19a4c116, 0x1e376c08, 0x2748774c, 0x34b0bcb5, 0x391c0cb3, 0x4ed8aa4a, 0x5b9cca4f, 0x682e6ff3,
    0x748f82ee, 0x78a5636f, 0x84c87814, 0x8cc70208, 0x90befffa, 0xa4506ceb, 0xbef9a3f7, 0xc67178f2]

/-- The eight words a digest is computed in. -/
structure Words where
  a : UInt32
  b : UInt32
  c : UInt32
  d : UInt32
  e : UInt32
  f : UInt32
  g : UInt32
  h : UInt32

namespace Words

/-- The first 32 bits of the fractional parts of the square roots of the first eight primes. -/
def initial : Words :=
  ⟨0x6a09e667, 0xbb67ae85, 0x3c6ef372, 0xa54ff53a, 0x510e527f, 0x9b05688c, 0x1f83d9ab, 0x5be0cd19⟩

def add (x y : Words) : Words :=
  ⟨x.a + y.a, x.b + y.b, x.c + y.c, x.d + y.d, x.e + y.e, x.f + y.f, x.g + y.g, x.h + y.h⟩

def toList (w : Words) : List UInt32 := [w.a, w.b, w.c, w.d, w.e, w.f, w.g, w.h]

end Words

def rotateRight (x : UInt32) (n : UInt32) : UInt32 := (x >>> n) ||| (x <<< (32 - n))

/-- One round with a word of the schedule and a round constant. -/
def round (w : Words) (word constant : UInt32) : Words :=
  let s1 := rotateRight w.e 6 ^^^ rotateRight w.e 11 ^^^ rotateRight w.e 25
  let choice := (w.e &&& w.f) ^^^ (~~~w.e &&& w.g)
  let t1 := w.h + s1 + choice + constant + word
  let s0 := rotateRight w.a 2 ^^^ rotateRight w.a 13 ^^^ rotateRight w.a 22
  let majority := (w.a &&& w.b) ^^^ (w.a &&& w.c) ^^^ (w.b &&& w.c)
  ⟨t1 + (s0 + majority), w.a, w.b, w.c, w.d + t1, w.e, w.f, w.g⟩

/-- The next word of the schedule after those in `ws`, which come last one first. -/
def nextWord (ws : List UInt32) : UInt32 :=
  let past (i : Nat) : UInt32 := ws.getD i 0
  let s0 := rotateRight (past 14) 7 ^^^ rotateRight (past 14) 18 ^^^ (past 14 >>> 3)
  let s1 := rotateRight (past 1) 17 ^^^ rotateRight (past 1) 19 ^^^ (past 1 >>> 10)
  past 15 + s0 + past 6 + s1

/-- Makes a schedule longer by `n` words; its words come last one first. -/
def extend : Nat → List UInt32 → List UInt32
  | 0, ws => ws
  | n + 1, ws => extend n (nextWord ws :: ws)

def bigEndian (bytes : List UInt8) : UInt32 :=
  bytes.foldl (fun n b => (n <<< 8) ||| b.toUInt32) 0

/-- The groups of `n` elements of a list. -/
def groups {α : Type} (n : Nat) : Nat → List α → List (List α)
  | 0, _ => []
  | _, [] => []
  | fuel + 1, xs => xs.take n :: groups n fuel (xs.drop n)

/-- Takes a block of 64 bytes in. -/
def compress (w : Words) (block : List UInt8) : Words :=
  let schedule := (extend 48 ((groups 4 16 block).map bigEndian).reverse).reverse
  w.add ((schedule.zip roundConstants).foldl (fun w (word, constant) => round w word constant) w)

def bytesOf (n count : Nat) : List UInt8 :=
  ((List.range count).map fun i => (n / Nat.pow 256 i).toUInt8).reverse

/-- Fills a message up to whole blocks: a one bit, zeros, and the length in bits. -/
def pad (message : List UInt8) : List UInt8 :=
  let zeros := (119 - message.length % 64) % 64
  message ++ 0x80 :: List.replicate zeros 0 ++ bytesOf (8 * message.length) 8

def digest (message : List UInt8) : List UInt8 :=
  let padded := pad message
  let w := (groups 64 (padded.length / 64) padded).foldl compress .initial
  w.toList.flatMap fun word => bytesOf word.toNat 4

/-! ## Parts -/

/-- One part of what is fingerprinted. -/
inductive Part where
  | text (s : String)
  | optional (s : Option String)
  | json (j : Json)

def terminated (s : String) : List UInt8 := s.toUTF8.toList ++ [0]

def Part.bytes : Part → List UInt8
  | text s => terminated s
  | optional none => [0]
  | optional (some s) => 1 :: terminated s
  | json j => terminated j.compact

/-- Lower-case hexadecimal digits, two for each byte. -/
def hexText (bytes : List UInt8) : String :=
  String.ofList (bytes.flatMap fun b => [Json.hexDigit (b.toNat / 16), Json.hexDigit b.toNat])

/-- The fingerprint of some parts. -/
def ofParts (parts : List Part) : String := hexText (digest (parts.flatMap Part.bytes))

end ModuleSharing.Fingerprint
