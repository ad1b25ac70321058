/-!
# SHA-256

The digest of a sequence of bytes as the standard defines it, and its text in hexadecimal digits.
-/

namespace TransactionRules.Sha256

/-- The fractional parts of the cube roots of the first 64 primes. -/
def roundConstants : List UInt32 := [
  0x428a2f98, 0x71374491, 0xb5c0fbcf, 0xe9b5dba5, 0x3956c25b, 0x59f111f1, 0x923f82a4, 0xab1c5ed5,
  0xd807aa98, 0x12835b01, 0x243185be, 0x550c7dc3, 0x72be5d74, 0x80deb1fe, 0x9bdc06a7, 0xc19bf174,
  0xe49b69c1, 0xefbe4786, 0x0fc19dc6, 0x240ca1cc, 0x2de92c6f, 0x4a7484aa, 0x5cb0a9dc, 0x76f988da,
  0x983e5152, 0xa831c66d, 0xb00327c8, 0xbf597fc7, 0xc6e00bf3, 0xd5a79147, 0x06ca6351, 0x14292967,
  0x27b70a85, 0x2e1b2138, 0x4d2c6dfc, 0x53380d13, 0x650a7354, 0x766a0abb, 0x81c2c92e, 0x92722c85,
  0xa2bfe8a1, 0xa81a664b, 0xc24b8b70, 0xc76c51a3, 0xd192e819, 0xd6990624, 0xf40e3585, 0x106aa070,
  0x19a4c116, 0x1e376c08, 0x2748774c, 0x34b0bcb5, 0x391c0cb3, 0x4ed8aa4a, 0x5b9cca4f, 0x682e6ff3,
  0x748f82ee, 0x78a5636f, 0x84c87814, 0x8cc70208, 0x90befffa, 0xa4506ceb, 0xbef9a3f7, 0xc67178f2]

structure State where
  a : UInt32
  b : UInt32
  c : UInt32
  d : UInt32
  e : UInt32
  f : UInt32
  g : UInt32
  h : UInt32
deriving DecidableEq, Repr

/-- The fractional parts of the square roots of the first eight primes. -/
def State.initial : State :=
  ⟨0x6a09e667, 0xbb67ae85, 0x3c6ef372, 0xa54ff53a, 0x510e527f, 0x9b05688c, 0x1f83d9ab, 0x5be0cd19⟩

def State.add (s t : State) : State :=
  ⟨s.a + t.a, s.b + t.b, s.c + t.c, s.d + t.d, s.e + t.e, s.f + t.f, s.g + t.g, s.h + t.h⟩

def rotate (x : UInt32) (n : UInt32) : UInt32 := (x >>> n) ||| (x <<< (32 - n))

/-- One round, on a word of the schedule and a round constant. -/
def round (s : State) (word constant : UInt32) : State :=
  let mix := rotate s.e 6 ^^^ rotate s.e 11 ^^^ rotate s.e 25
  let choice := (s.e &&& s.f) ^^^ (~~~s.e &&& s.g)
  let first := s.h + mix + choice + constant + word
  let spread := rotate s.a 2 ^^^ rotate s.a 13 ^^^ rotate s.a 22
  let majority := (s.a &&& s.b) ^^^ (s.a &&& s.c) ^^^ (s.b &&& s.c)
  ⟨first + (spread + majority), s.a, s.b, s.c, s.d + first, s.e, s.f, s.g⟩

/-- The word that follows the words `w` of a schedule. -/
def nextWord (w : Array UInt32) : UInt32 :=
  let at' (back : Nat) : UInt32 := w.getD (w.size - back) 0
  let old := at' 15
  let recent := at' 2
  at' 16 + (rotate old 7 ^^^ rotate old 18 ^^^ (old >>> 3)) + at' 7 +
    (rotate recent 17 ^^^ rotate recent 19 ^^^ (recent >>> 10))

/-- The 64 words of the schedule of a block of 16 words. -/
def schedule (block : List UInt32) : List UInt32 :=
  (Nat.fold 48 (fun _ _ (w : Array UInt32) => w.push (nextWord w)) block.toArray).toList

def compress (s : State) (block : List UInt32) : State :=
  s.add (((schedule block).zip roundConstants).foldl (fun s (word, k) => round s word k) s)

/-- The bytes of a number, the most significant first. -/
def bigEndian (count n : Nat) : List UInt8 :=
  (List.range count).reverse.map fun i => UInt8.ofNat (n >>> (8 * i))

/-- A one bit, then zeros up to the length of the message in bits, which ends a block. -/
def pad (message : List UInt8) : List UInt8 :=
  let n := message.length
  message ++ 0x80 :: List.replicate ((119 - n % 64) % 64) 0 ++ bigEndian 8 (8 * n)

def wordOf (bytes : List UInt8) : UInt32 := bytes.foldl (fun w b => (w <<< 8) ||| b.toUInt32) 0

/-- The items in groups of `n + 1`, in order; an incomplete last group is left out. -/
def groups {α : Type} (n : Nat) (items : List α) : List (List α) :=
  if h : items.length ≤ n then []
  else items.take (n + 1) :: groups n (items.drop (n + 1))
termination_by items.length
decreasing_by simp only [List.length_drop]; omega

def words (s : State) : List UInt32 := [s.a, s.b, s.c, s.d, s.e, s.f, s.g, s.h]

def digest (message : List UInt8) : List UInt8 :=
  let blocks := groups 15 ((groups 3 (pad message)).map wordOf)
  (words (blocks.foldl compress .initial)).flatMap fun w => bigEndian 4 w.toNat

def hexDigits (bytes : List UInt8) : String :=
  String.ofList (bytes.flatMap fun b =>
    [Nat.digitChar (b.toNat / 16), Nat.digitChar (b.toNat % 16)])

/-- The digest of a text in UTF-8, in hexadecimal digits. -/
def ofText (s : String) : String := hexDigits (digest s.toUTF8.toList)

end TransactionRules.Sha256
