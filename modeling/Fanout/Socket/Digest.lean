import Fanout.Socket.Codec

/-! The digest and the text form of bytes that a handshake needs. -/
namespace Fanout

def rotateLeft (x : UInt32) (n : UInt32) : UInt32 := (x <<< n) ||| (x >>> (32 - n))

/-- The five words of a digest under way. -/
structure DigestState where
  a : UInt32 := 0x67452301
  b : UInt32 := 0xEFCDAB89
  c : UInt32 := 0x98BADCFE
  d : UInt32 := 0x10325476
  e : UInt32 := 0xC3D2E1F0
  deriving DecidableEq

namespace DigestState

/-- Mixes one word in. -/
def round (s : DigestState) (n : Nat) (word : UInt32) : DigestState :=
  let (f, k) : UInt32 × UInt32 :=
    if n < 20 then ((s.b &&& s.c) ||| ((~~~s.b) &&& s.d), 0x5A827999)
    else if n < 40 then (s.b ^^^ s.c ^^^ s.d, 0x6ED9EBA1)
    else if n < 60 then ((s.b &&& s.c) ||| (s.b &&& s.d) ||| (s.c &&& s.d), 0x8F1BBCDC)
    else (s.b ^^^ s.c ^^^ s.d, 0xCA62C1D6)
  ⟨rotateLeft s.a 5 + f + s.e + k + word, s.a, rotateLeft s.b 30, s.c, s.d⟩

def add (s t : DigestState) : DigestState := ⟨s.a + t.a, s.b + t.b, s.c + t.c, s.d + t.d, s.e + t.e⟩

def toBytes (s : DigestState) : List UInt8 :=
  [s.a, s.b, s.c, s.d, s.e].flatMap fun w => bigEndian 4 w.toNat

end DigestState

/-- Parts of `n` items each; the last may be shorter. -/
def chunks (n : Nat) (xs : List α) : List (List α) :=
  if _h : xs.isEmpty || n == 0 then []
  else xs.take n :: chunks n (xs.drop n)
  termination_by xs.length
  decreasing_by cases xs <;> simp_all; omega

/-- So many more words, each made from four before it. The newest word comes first. -/
def extendWords : Nat → List UInt32 → List UInt32
  | 0, words => words
  | n + 1, words =>
    let at' (i : Nat) : UInt32 := (words[i]?).getD 0
    extendWords n (rotateLeft (at' 2 ^^^ at' 7 ^^^ at' 13 ^^^ at' 15) 1 :: words)

/-- Mixes in a block of 64 bytes. -/
def digestBlock (s : DigestState) (block : List UInt8) : DigestState :=
  let words := (chunks 4 block).map fun b => (ofBigEndian b).toUInt32
  let schedule := (extendWords 64 words.reverse).reverse
  (schedule.zipIdx.foldl (fun t (w, n) => t.round n w) s).add s

/-- The bytes with a mark, zeros and their length in bits, to fill blocks. -/
def padToBlocks (bytes : List UInt8) : List UInt8 :=
  let zeros := (119 - bytes.length % 64) % 64
  bytes ++ 128 :: List.replicate zeros 0 ++ bigEndian 8 (bytes.length * 8)

/-- A digest of 160 bits. -/
def digest (bytes : List UInt8) : List UInt8 :=
  ((chunks 64 (padToBlocks bytes)).foldl digestBlock {}).toBytes

/-- The digits of base 64. -/
def base64Digits : List Char :=
  "ABCDEFGHIJKLMNOPQRSTUVWXYZabcdefghijklmnopqrstuvwxyz0123456789+/".toList

/-- Four digits for three bytes, with fillers for those that are missing. -/
def base64Group (bytes : List UInt8) : List Char :=
  let n := ofBigEndian (bytes ++ List.replicate (3 - bytes.length) 0)
  let digits := [18, 12, 6, 0].map fun shift => (base64Digits[n / Nat.pow 2 shift % 64]?).getD '='
  digits.take (bytes.length + 1) ++ List.replicate (3 - bytes.length) '='

def base64 (bytes : List UInt8) : String := String.ofList ((chunks 3 bytes).flatMap base64Group)

/-- Proves that a server has read the key of a handshake. -/
def acceptKey (key : String) : String :=
  base64 (digest (key ++ "258EAFA5-E914-47DA-95CA-C5AB0DC85B11").toUTF8.toList)

end Fanout
