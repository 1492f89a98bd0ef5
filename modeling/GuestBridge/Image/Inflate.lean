import GuestBridge.Image.PrefixCode

/-!
# Unpacking compressed streams

A compressed stream has a two-byte header, blocks that are stored or coded with prefix codes, and a
checksum of four bytes, which must be there but is not compared. Bits are taken from the low end of
each byte. The bytes of a stream may come in several portions, and no more is unpacked than a given
number of bytes: when they are there, what follows is only looked at as long as it yields nothing,
until more bytes are asked for.
-/

namespace GuestBridge.Image

/-- Bytes read bit by bit, and the position of the next bit. -/
structure BitSource where
  bytes : ByteArray
  position : Nat

namespace BitSource

/-- Bits that have not been read. -/
def left (s : BitSource) : Nat := 8 * s.bytes.size - s.position

/-- The bit `ahead` places from here; past the end the bits are zero. -/
def bit (s : BitSource) (ahead : Nat) : Nat :=
  let i := s.position + ahead
  if h : i / 8 < s.bytes.size then ((s.bytes[i / 8]).toNat >>> (i % 8)) % 2 else 0

/-- The number of `n` bits, low bit first, that starts `ahead` places from here. -/
def bits (s : BitSource) (ahead : Nat) : Nat → Nat
  | 0 => 0
  | n + 1 => s.bit ahead + 2 * s.bits (ahead + 1) n

def skip (s : BitSource) (n : Nat) : BitSource := { s with position := s.position + n }

/-- Bits up to the next whole byte. -/
def untilByte (s : BitSource) : Nat := (8 - s.position % 8) % 8

end BitSource

namespace Inflate

/-- What is wrong with a stream. -/
inductive Error where
  | header
  | insufficientInput
  | blockType
  | storedLength
  | literalCount
  | distanceCount
  | lengthRepeat
  | codeTree
  | literalTree
  | distanceTree
  | literalCode
  | distanceCode
  | distanceTooFar
deriving DecidableEq, Repr

def Error.name : Error → String
  | header => "BadZlibHeader"
  | insufficientInput => "InsufficientInput"
  | blockType => "InvalidBlockType"
  | storedLength => "InvalidUncompressedBlockLength"
  | literalCount => "InvalidHlit"
  | distanceCount => "InvalidHdist"
  | lengthRepeat => "InvalidCodeLengthRepeat"
  | codeTree => "BadCodeLengthHuffmanTree"
  | literalTree => "BadLiteralLengthHuffmanTree"
  | distanceTree => "BadDistanceHuffmanTree"
  | literalCode => "InvalidLiteralLengthCode"
  | distanceCode => "InvalidDistanceCode"
  | distanceTooFar => "DistanceTooFarBack"

/-- Why unpacking pauses or ends. -/
inductive Stop where
  /-- The bytes at hand do not hold the next item. -/
  | starved
  /-- All bytes that were asked for are there. -/
  | full
  /-- The stream and its checksum have been read. -/
  | finished
  | failed (error : Error)
deriving DecidableEq, Repr

/-- What comes next in the stream. -/
inductive Phase where
  | header
  | blockHeader
  | stored (remaining : Nat)
  | coded (literals distances : PrefixCode)
  /-- The rest of a repeat within coded items. -/
  | repeating (literals distances : PrefixCode) (distance remaining : Nat)
  | checksum
  | finished

/-- A stream that is being unpacked. -/
structure State where
  source : BitSource
  output : ByteArray
  /-- The number of bytes that are asked for. -/
  limit : Nat
  isLast : Bool
  phase : Phase

namespace State

def initial : State := ⟨⟨.empty, 0⟩, .empty, 0, false, .header⟩

def isFinished (st : State) : Bool :=
  match st.phase with
  | .finished => true
  | _ => false

def isFull (st : State) : Bool := st.limit ≤ st.output.size

/-- Hands over the next portion of the stream. -/
def append (st : State) (portion : ByteArray) : State :=
  { st with source := { st.source with bytes := st.source.bytes ++ portion } }

/-- What comes behind a block. -/
def afterBlock (isLast : Bool) : Phase := if isLast then .checksum else .blockHeader

end State

/-- What an item of the stream does besides being read. -/
inductive Effect where
  | nothing
  /-- Starts a block, which may be the last one. -/
  | block (isLast : Bool)
  | literal (b : UInt8)
  /-- Repeats bytes. -/
  | copy (distance count : Nat)
  /-- Copies bytes of the stream. -/
  | store (count : Nat)

/-- The next item of a stream. -/
structure Item where
  bits : Nat
  effect : Effect
  /-- What comes behind it. -/
  phase : Phase

/-- The base value and the number of extra bits of the length symbols 257 to 285. -/
def lengthRanges : Array (Nat × Nat) :=
  #[(3, 0), (4, 0), (5, 0), (6, 0), (7, 0), (8, 0), (9, 0), (10, 0), (11, 1), (13, 1), (15, 1),
    (17, 1), (19, 2), (23, 2), (27, 2), (31, 2), (35, 3), (43, 3), (51, 3), (59, 3), (67, 4),
    (83, 4), (99, 4), (115, 4), (131, 5), (163, 5), (195, 5), (227, 5), (258, 0)]

/-- The base value and the number of extra bits of the distance symbols. -/
def distanceRanges : Array (Nat × Nat) :=
  #[(1, 0), (2, 0), (3, 0), (4, 0), (5, 1), (7, 1), (9, 2), (13, 2), (17, 3), (25, 3), (33, 4),
    (49, 4), (65, 5), (97, 5), (129, 6), (193, 6), (257, 7), (385, 7), (513, 8), (769, 8),
    (1025, 9), (1537, 9), (2049, 10), (3073, 10), (4097, 11), (6145, 11), (8193, 12), (12289, 12),
    (16385, 13), (24577, 13)]

/-- Appends `length` bytes, each the one `distance` bytes back. -/
def repeated (distance : Nat) : (length : Nat) → ByteArray → ByteArray
  | 0, output => output
  | length + 1, output =>
    let i := output.size - distance
    repeated distance length (output.push (if h : i < output.size then output[i] else 0))

/-- Appends what an item yields. -/
def Effect.extend (source : BitSource) (output : ByteArray) : Effect → ByteArray
  | nothing | block _ => output
  | literal b => output.push b
  | copy distance count => repeated distance count output
  | store count =>
    let start := source.position / 8
    output ++ source.bytes.extract start (start + count)

/-- Reads an item. -/
def State.take (st : State) (item : Item) : State :=
  { st with
    source := st.source.skip item.bits
    output := item.effect.extend st.source st.output
    isLast := match item.effect with
      | .block isLast => isLast
      | _ => st.isLast
    phase := item.phase }

def fixedLiterals : PrefixCode :=
  .ofLengths 15 (List.replicate 144 8 ++ List.replicate 112 9 ++ List.replicate 24 7
    ++ List.replicate 8 8)

def fixedDistances : PrefixCode := .ofLengths 15 (List.replicate 32 5)

/-- The order in which the lengths of the length code are sent. -/
def lengthOrder : List Nat := [16, 17, 18, 0, 8, 7, 9, 6, 10, 5, 11, 4, 12, 3, 13, 2, 14, 1, 15]

/-- Reads word lengths until there are `wanted`. The symbols 16 to 18 repeat the last length or
zero, and may not run past the end. Seven bits must be there for a symbol. -/
def wordLengths (code : PrefixCode) (wanted : Nat) :
    (fuel : Nat) → (reversed : List Nat) → BitSource → Except Stop (List Nat × BitSource)
  | 0, _, _ => .error .starved
  | fuel + 1, reversed, s => do
    if wanted ≤ reversed.length then return (reversed.reverse, s)
    if s.left < 7 then throw .starved
    let some (symbol, length) := code.find? s.bit | throw (.failed .codeTree)
    if symbol < 16 then wordLengths code wanted fuel (symbol :: reversed) (s.skip length)
    else
      let (base, extra) := if symbol = 16 then (3, 2) else if symbol = 17 then (3, 3) else (11, 7)
      if s.left < length + extra then throw .starved
      let some value := if symbol = 16 then reversed.head? else some 0
        | throw (.failed .lengthRepeat)
      let count := base + s.bits length extra
      if wanted < reversed.length + count then throw (.failed .lengthRepeat)
      wordLengths code wanted fuel (List.replicate count value ++ reversed)
        (s.skip (length + extra))

/-- A distance code may be empty or have a single word. -/
def validDistances (lengths : List Nat) : Except Stop PrefixCode :=
  let code := PrefixCode.ofLengths 15 lengths
  if code.symbols.isEmpty || code.isSingle || code.isComplete then .ok code
  else .error (.failed .distanceTree)

/-- Reads the two codes that a block brings along, behind the bits that tell the kind of block. -/
def blockCodes (s : BitSource) : Except Stop ((PrefixCode × PrefixCode) × BitSource) := do
  if s.left < 17 then throw .starved
  let literalCount := s.bits 3 5 + 257
  let distanceCount := s.bits 8 5 + 1
  let lengthCount := s.bits 13 4 + 4
  if 286 < literalCount then throw (.failed .literalCount)
  if 30 < distanceCount then throw (.failed .distanceCount)
  let s := s.skip 17
  if s.left < 3 * lengthCount then throw .starved
  let lengths := (List.range lengthCount).map fun i => s.bits (3 * i) 3
  let sent := lengthOrder.zip lengths
  let lengthCode := PrefixCode.ofLengths 7 <| (List.range 19).map fun symbol =>
    (sent.lookup symbol).getD 0
  if !lengthCode.isComplete then throw (.failed .codeTree)
  let wanted := literalCount + distanceCount
  let (all, s) ← wordLengths lengthCode wanted (wanted + 1) [] (s.skip (3 * lengthCount))
  if all[256]? == some 0 then throw (.failed .literalTree)
  let literals := PrefixCode.ofLengths 15 (all.take literalCount)
  if !literals.isComplete then throw (.failed .codeTree)
  let distances ← validDistances (all.drop literalCount)
  return ((literals, distances), s)

/-- The header of a block. Ten bits must be there; they may be a whole block without content. -/
def blockHeader (s : BitSource) : Except Stop Item := do
  if s.left < 10 then throw .starved
  let isLast := s.bit 0 = 1
  let item (bits : Nat) (phase : Phase) : Item := ⟨bits, .block isLast, phase⟩
  match s.bits 1 2 with
  | 0 =>
    let start := 3 + (s.skip 3).untilByte
    if s.left < start + 32 then throw .starved
    let length := s.bits start 16
    if length + s.bits (start + 16) 16 ≠ 65535 then throw (.failed .storedLength)
    return item (start + 32) (.stored length)
  | 1 =>
    if s.bits 3 7 = 0 then return item 10 (State.afterBlock isLast)
    return item 3 (.coded fixedLiterals fixedDistances)
  | 2 =>
    let ((literals, distances), rest) ← blockCodes s
    return item (rest.position - s.position) (.coded literals distances)
  | _ => throw (.failed .blockType)

/-- The bytes of a stored block that are there and still wanted. -/
def storedItem (st : State) (remaining : Nat) : Except Stop Item := do
  if remaining = 0 then return ⟨0, .nothing, State.afterBlock st.isLast⟩
  if st.isFull then throw .full
  let start := st.source.position / 8
  let count := min remaining (min (st.source.bytes.size - start) (st.limit - st.output.size))
  if count = 0 then throw .starved
  return ⟨8 * count, .store count, .stored (remaining - count)⟩

/-- The most bits of a distance word that is found at once. -/
def shortWord : Nat := 9

/-- A repeat of `count` bytes. Its own bits are the next `read` ones, and those of its distance
follow. A longer distance word, or one without meaning, needs more bits behind `read` than a short
one has. -/
def repeatItem (st : State) (literals distances : PrefixCode) (count read : Nat) :
    Except Stop Item := do
  let s := st.source
  let found := distances.find? fun i => s.bit (read + i)
  let range := found.bind fun (symbol, _) => distanceRanges[symbol]?
  let length := (found.map Prod.snd).getD (shortWord + 1)
  if (range.isNone || shortWord < length) && s.left ≤ read + shortWord then throw .starved
  let some (base, extra) := range | throw (.failed .distanceCode)
  let distance := base + s.bits (read + length) extra
  let read := read + length + extra
  if s.left < read then throw .starved
  if st.output.size < distance then throw (.failed .distanceTooFar)
  return ⟨read, .nothing, .repeating literals distances distance count⟩

/-- One literal, one repeat or the end of a block. When no more bytes are wanted only the end of the
block is taken, and only if fifteen bits are there. The words behind the last length end a block as
well. -/
def codedItem (st : State) (literals distances : PrefixCode) : Except Stop Item := do
  let s := st.source
  let some (symbol, length) := literals.find? s.bit | throw (.failed .literalCode)
  let finish : Item := ⟨length, .nothing, State.afterBlock st.isLast⟩
  if st.isFull then
    if s.left < 15 || symbol ≠ 256 then throw .full
    return finish
  if symbol < 256 then
    if s.left < length then throw .starved
    return ⟨length, .literal (UInt8.ofNat symbol), .coded literals distances⟩
  match if symbol = 256 then none else lengthRanges[symbol - 257]? with
  | some (base, extra) =>
    repeatItem st literals distances (base + s.bits length extra) (length + extra)
  | none =>
    if s.left < length then throw .starved
    return finish

/-- The bytes of a repeat that are still wanted. -/
def copiedItem (st : State) (literals distances : PrefixCode) (distance remaining : Nat) :
    Except Stop Item := do
  if remaining = 0 then return ⟨0, .nothing, .coded literals distances⟩
  if st.isFull then throw .full
  let count := min remaining (st.limit - st.output.size)
  return ⟨0, .copy distance count, .repeating literals distances distance (remaining - count)⟩

/-- Whether the two header bytes announce a stream that can be unpacked without a dictionary. -/
def validHeader (method flags : Nat) : Bool :=
  method % 16 == 8 && method / 16 ≤ 7 && (256 * method + flags) % 31 == 0 && flags / 32 % 2 == 0

/-- The next item of the stream. -/
def next (st : State) : Except Stop Item :=
  let s := st.source
  match st.phase with
  | .header =>
    if s.left < 16 then .error .starved
    else if validHeader (s.bits 0 8) (s.bits 8 8) then .ok ⟨16, .nothing, .blockHeader⟩
    else .error (.failed .header)
  | .blockHeader => blockHeader s
  | .stored remaining => storedItem st remaining
  | .coded literals distances => codedItem st literals distances
  | .repeating literals distances distance remaining =>
    copiedItem st literals distances distance remaining
  | .checksum =>
    let n := s.untilByte + 32
    if s.left < n then .error .starved else .ok ⟨n, .nothing, .finished⟩
  | .finished => .error .finished

/-- Reads items as long as there are any. -/
def run : (fuel : Nat) → State → State × Stop
  | 0, st => (st, .starved)
  | fuel + 1, st =>
    match next st with
    | .ok item => run fuel (st.take item)
    | .error stop => (st, stop)

/-- Unpacks what the next portion of the stream yields, up to `limit` bytes altogether. Every item
but the empty rest of a stored block and the two halves of a repeat takes at least one bit. -/
def feed (st : State) (portion : ByteArray) (limit : Nat) : State × Stop :=
  let st := { st.append portion with limit }
  run (4 * st.source.left + 8) st

end Inflate

end GuestBridge.Image
