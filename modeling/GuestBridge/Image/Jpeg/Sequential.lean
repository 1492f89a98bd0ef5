import GuestBridge.Image.Jpeg.Layout

/-!
# Sequential scans

The units of a sequential scan are sent row by row. All components may come in one scan, or they
come in several, with tables between them; these bring their blocks one by one. At intervals a
restart marker lets the decoder start afresh. Other markers count behind a row of units.

A scan that is damaged or ends too soon leaves a part of the picture open.
-/

namespace GuestBridge.Image.Jpeg

/-- What is below the last band of a picture. -/
inductive Below where
  /-- Lines of one grey. -/
  | grey (rest : UInt8)
  /-- There is no picture if one gets there. -/
  | failure (cause : Failure Error)

/-- The bands of a picture from top to bottom. Each goes with the row of units that it was read
from; scans that are read one after the other may bring the same rows again. -/
structure Picture where
  bands : Array (Nat × Band)
  below : Below

/-- A scan that is being read. -/
structure Reading where
  setup : Setup
  bits : CodedBits
  /-- The first coefficient of the block before, by component. -/
  predictions : Array Int32

namespace Reading

/-- Forgets the blocks before. -/
def forget (r : Reading) : Reading := { r with predictions := r.predictions.map fun _ => 0 }

/-- Starts afresh behind a restart marker, and counts the units again. -/
def restart (r : Reading) : Reading :=
  let r := { r with setup := { r.setup with untilRestart := r.setup.restartInterval } }
  if r.bits.marker.any Marker.isRestart then { r with bits := r.bits.reset }.forget else r

/-- Looks for the marker of a restart that is due. -/
def seekRestart (r : Reading) : Option Reading :=
  match r.bits.refill with
  | none => none
  | some bits =>
    if bits.marker.isNone && !bits.isOver then
      let (marker, bits) := bits.nextMarker
      some { r with bits := { bits with marker } }.restart
    else some { r with bits }.restart

/-- Whether a restart is due behind the next unit. -/
def isLastOfInterval (r : Reading) : Bool := r.setup.untilRestart == 1

/-- Counts a unit. -/
def countUnit (r : Reading) : Reading :=
  { r with setup := { r.setup with untilRestart := r.setup.untilRestart - 1 } }

/-- Reads the segment behind a marker. -/
def readSegment (r : Reading) (m : Marker) : Result Reading := do
  let (setup, cursor) ← (r.setup.readSegment m).run ⟨r.bits.file, r.bits.position⟩
  return { r with setup, bits := { r.bits with position := cursor.position } }

/-- What comes behind a row of units. -/
inductive RowEnd where
  /-- The next row, or the end of the scan. -/
  | row
  /-- Another scan. -/
  | scan
  /-- Other segments and then another scan. -/
  | laterScan
  /-- The end of the image. -/
  | finish
  | damage

/-- Goes on behind the end of the image. -/
def passEnd (r : Reading) : Reading := { r with bits := { r.bits with isOver := true } }

/-- Reads segments, starting with the one behind `m`, up to the next scan. -/
def seekScan (r : Reading) : (fuel : Nat) → (m : Marker) → Result (RowEnd × Reading)
  | 0, _ => return (.damage, r)
  | fuel + 1, m => do
    if m = Marker.endOfImage then return (.finish, r.passEnd)
    let r ← r.readSegment m
    if m = Marker.startOfScan then return (.laterScan, { r with bits := r.bits.reset })
    match r.bits.nextMarker with
    | (some m, bits) => seekScan { r with bits } fuel m
    | (none, bits) => return (.damage, { r with bits })

/-- Regards the marker behind a row of units, if there is one. The units go on behind the end of the
image, and a restart that is not due does not matter. -/
def endRow (r : Reading) : Result (RowEnd × Reading) := do
  let some m := r.bits.marker | return (.row, r)
  if Marker.isRestart m then return (.row, r)
  let r : Reading := { r with bits := { r.bits with marker := none } }
  if m = Marker.endOfImage then return (.row, r.passEnd)
  match ← r.seekScan (r.bits.file.size + 1) m with
  | (.laterScan, r) => return (if m = Marker.startOfScan then .scan else .laterScan, r)
  | (rowEnd, r) => return (rowEnd, r)

/-- A component of the frame. -/
def component? (r : Reading) (place : Nat) : Option Component := do
  (← r.setup.frame).components[place]?

/-- Reads a block of a component; its samples. Of the numbers of its codes only the last two bits
count. -/
def readBlock (r : Reading) (l : Layout) (place : Nat) : Option (ByteArray × Reading) := do
  let component ← r.component? place
  let dcCode ← r.setup.dcCodes.lookup (component.dcCode % 4)
  let acCode ← r.setup.acCodes.lookup (component.acCode % 4)
  let table := (l.channel place).table
  let (difference, bits) ← Block.readDifference dcCode r.bits
  let dc := (r.predictions[place]?).getD 0 + difference
  let block := Block.zero.setIfInBounds 0 (dc * Block.get table 0)
  let (block, bits) ← Block.readFurther acCode table 63 1 block bits
  return (block.samples, { r with bits, predictions := r.predictions.setIfInBounds place dc })

end Reading

/-- A block of a unit: its component and its place in the unit. -/
structure Spot where
  component : Nat
  x : Nat
  y : Nat

/-- Whether the scans of an image bring all components, or only some of them each. -/
inductive Coverage where
  | full
  | partly
deriving DecidableEq

namespace Layout

/-- The blocks of a unit in the order in which they are sent. -/
def spots (l : Layout) (coverage : Coverage) (s : Scan) : List Spot :=
  s.components.flatMap fun k =>
    let c := l.channel k
    match coverage with
    | .partly => [⟨k, 0, 0⟩]
    | .full =>
      (List.range c.vertical).flatMap fun y => (List.range c.horizontal).map fun x => ⟨k, x, y⟩

/-- Units in a row of a scan. -/
def scanColumns (l : Layout) (coverage : Coverage) (s : Scan) : Nat :=
  match coverage, s.components with
  | .partly, [k] => l.blockColumns (l.channel k)
  | _, _ => l.columns

/-- The column and the row of the first samples of a block: in its band if a scan brings all
components, or else in the whole plane of its component, where the band of each row of units starts
below those before. -/
def corner (l : Layout) (coverage : Coverage) (row column : Nat) (s : Spot) : Nat × Nat :=
  let c := l.channel s.component
  match coverage with
  | .full => (8 * (column * c.horizontal + s.x), 8 * s.y)
  | .partly => (8 * (column + s.x), 8 * (row * c.vertical + s.y))

/-- Reads the blocks of the unit in some row and column; on damage, the samples so far. -/
def readUnit (l : Layout) (coverage : Coverage) (row column : Nat) :
    List Spot → Reading → Band → Option Reading × Band
  | [], r, band => (some r, band)
  | spot :: spots, r, band =>
    match r.readBlock l spot.component with
    | none => (none, band)
    | some (samples, r) =>
      let (x, y) := l.corner coverage row column spot
      let stride := (l.channel spot.component).stride
      l.readUnit coverage row column spots r
        (band.modify spot.component (placeBlock samples stride x y))

/-- Reads `count` units from some column on; none for the reading if there is damage. A marker
without any bits before it ends the row, unless it has just been looked for. -/
def readUnits (l : Layout) (coverage : Coverage) (spots : List Spot) (row : Nat) :
    (count column : Nat) → Reading → Band → Option Reading × Band
  | 0, _, r, band => (some r, band)
  | count + 1, column, r, band =>
    match l.readUnit coverage row column spots r band with
    | (none, band) => (none, band)
    | (some r, band) =>
      let next := r.countUnit
      if r.isLastOfInterval then
        match next.seekRestart with
        | none => (none, band)
        | some r => l.readUnits coverage spots row count (column + 1) r band
      else if next.bits.marker.isSome && next.bits.count = 0 then (some next, band)
      else l.readUnits coverage spots row count (column + 1) next band

/-- Reads a row of units. -/
def readRow (l : Layout) (coverage : Coverage) (row : Nat) (r : Reading) (band : Band) :
    Result (Reading.RowEnd × Reading × Band) := do
  let s := r.setup.scan
  match l.readUnits coverage (l.spots coverage s) row (l.scanColumns coverage s) 0 r band with
  | (none, band) => return (.damage, r, band)
  | (some r, band) =>
    let (rowEnd, r) ← r.endRow
    return (rowEnd, r, band)

/-- Reads scans that bring all components, from some row on. A band starts with the samples of the
one before. Segments between two scans let the second one start again with the first row. -/
def readBands (l : Layout) :
    (fuel : Nat) → (row : Nat) → Reading → Array (Nat × Band) → Picture
  | 0, _, _, bands => ⟨bands, .grey 0⟩
  | fuel + 1, row, r, bands =>
    if l.rows ≤ row then ⟨bands, .grey 0⟩
    else if r.bits.isStarved then ⟨bands, .grey 128⟩
    else
      match l.readRow .full row r ((bands.back?.map Prod.snd).getD l.blankBand) with
      | .error cause => ⟨bands, .failure cause⟩
      | .ok (rowEnd, r, band) =>
        let bands := bands.push (row, band)
        match rowEnd with
        | .row => l.readBands fuel (row + 1) r bands
        | .laterScan => l.readBands fuel 0 r bands
        | .scan | .finish => ⟨bands, .grey 0⟩
        | .damage => ⟨bands, .grey 128⟩

/-- Reads scans that bring some of the components each into their planes, from some row on; none if
there is damage. -/
def readPlanes (l : Layout) : (fuel : Nat) → (row : Nat) → Reading → Band → Result (Option Band)
  | 0, _, _, planes => return some planes
  | fuel + 1, row, r, planes => do
    if l.rows ≤ row || r.bits.isStarved then return some planes
    let (rowEnd, r, planes) ← l.readRow .partly row r planes
    match rowEnd with
    | .row => l.readPlanes fuel (row + 1) r planes
    | .scan | .laterScan => l.readPlanes fuel 0 r planes
    | .finish => return some planes
    | .damage => return none

/-- The planes of all components without any samples yet. -/
def blankPlanes (l : Layout) : Band :=
  l.channels.map fun c => uniform (64 * l.bandBlocks c * l.rows) 0

/-- The band of a row of units, cut out of the planes. -/
def bandAt (l : Layout) (planes : Band) (row : Nat) : Band :=
  l.channels.zipWith (fun c plane =>
    let size := 64 * l.bandBlocks c
    putPiece (plane.extract (row * size) ((row + 1) * size)) 0 c.blankBand) planes

/-- Each component needs its codes before the first scan. -/
def checkCodes (s : Setup) : (place : Nat) → List Component → Result Unit
  | _, [] => .ok ()
  | place, c :: cs => do
    if 3 < c.dcCode then reject (.dcCodePlace place)
    if (s.dcCodes.lookup c.dcCode).isNone then reject (.noDcCode place)
    if 3 < c.acCode then reject (.acCodePlace place)
    if (s.acCodes.lookup c.acCode).isNone then reject (.noAcCode place)
    checkCodes s (place + 1) cs

/-- Reads the scans of a sequential image. -/
def readSequential (l : Layout) (r : Reading) : Result Picture := do
  let fuel := l.rows * (r.bits.file.size + 1) + 1
  if r.setup.scan.components.length = l.channels.size then return l.readBands fuel 0 r #[]
  else
    let some planes ← l.readPlanes fuel 0 r l.blankPlanes | return ⟨#[], .grey 128⟩
    return ⟨(Array.range l.rows).map fun row => (row, l.bandAt planes row), .grey 0⟩

end Layout

end GuestBridge.Image.Jpeg
