import GuestBridge.Bridge.Start

/-!
# Reports on containers

What a container holds, as a table of one line a record or as a document.
-/

namespace GuestBridge

namespace Report

/-- One record of a report. -/
structure Entry where
  handle : Handle
  kind : ResourceKind
  size : Nat
  label : Option String
  dimensions : Option (Nat × Nat)
deriving DecidableEq, Repr

/-- The text of a label. -/
def labelOf : Payload → Option String
  | .label s => some s
  | _ => none

def Entry.ofResource (h : Handle) (r : Resource) : Entry :=
  ⟨h, r.kind, r.payload.byteSize, labelOf r.payload, r.bitmap?.map fun b => (b.width, b.height)⟩

/-- Blanks behind a text up to a width. -/
def padRight (width : Nat) (s : String) : String := s ++ "".pushn ' ' (width - s.length)

/-- Blanks before a text up to a width. -/
def padLeft (width : Nat) (s : String) : String := "".pushn ' ' (width - s.length) ++ s

/-- The line of a record, with its line end. -/
def Entry.line (e : Entry) : String :=
  let dimensions := match e.dimensions with
    | some (width, height) => s!"  {width}x{height}"
    | none => ""
  let label := match e.label with
    | some s => "  " ++ Text.quoted s
    | none => ""
  "#" ++ padRight 5 e.handle.text ++ " " ++ padRight 12 e.kind.name ++ " "
    ++ padLeft 10 (toString e.size) ++ dimensions ++ label ++ "\n"

/-- The record as a document; a label or dimensions only if there are any. -/
def Entry.document (e : Entry) : JsonValue :=
  .record
    ([("handle", .nat e.handle.raw.toNat), ("type", .text e.kind.name), ("size", .nat e.size)]
      ++ (e.label.map fun s => ("label", JsonValue.text s)).toList
      ++ (e.dimensions.map fun (w, h) =>
          ("dimensions", JsonValue.array [.nat w, .nat h])).toList)

end Report

structure Report where
  summary : LoadSummary
  entries : List Report.Entry
deriving DecidableEq, Repr

namespace Report

def ofTable (summary : LoadSummary) (t : ResourceTable) : Report :=
  ⟨summary, t.entries.map fun (h, r) => Entry.ofResource h r⟩

/-- The first line of the table. -/
def heading (s : LoadSummary) : String :=
  s!"{s.records} records, header declares {s.declaredCount} resources / {s.declaredSize} bytes"
    ++ (if s.matchesHeader then "" else " (mismatch)") ++ "\n"

def text (r : Report) : String := heading r.summary ++ String.join (r.entries.map Entry.line)

def document (r : Report) : JsonValue :=
  .record
    [("records", .nat r.summary.records.toNat),
      ("declared_count", .nat r.summary.declaredCount.toNat),
      ("declared_size", .nat r.summary.declaredSize.toNat),
      ("payload_bytes", .nat r.summary.payloadBytes.toNat),
      ("header_matches", .bool r.summary.matchesHeader),
      ("resources", .array (r.entries.map Entry.document))]

/-- Loads a container into a bridge of its own and reports on it. Images are decoded if that is asked
for, and kept as they are otherwise. -/
def inspect (decoder : ImageDecoder) (bytes : List UInt8) (decodeImages : Bool) (trace : Trace) :
    Except Bridge.StartError Report × Log :=
  let decoder? := if decodeImages then some decoder else none
  match Bridge.build { warnUnbound := false, decoder := decoder?, trace := trace } with
  | (.error e, log) => (.error (.registry e), log)
  | (.ok b, log) =>
    match b.load bytes with
    | (.ok summary, b, loadLog) => (.ok (ofTable summary b.resources), log ++ loadLog)
    | (.error e, _, loadLog) => (.error (.resources (.container e)), log ++ loadLog)

end Report

end GuestBridge
