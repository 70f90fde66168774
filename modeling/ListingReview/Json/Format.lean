import ListingReview.Json.Document
import ListingReview.Json.Reader

/-! # JSON: formats

A format says how values of a type stand in JSON: how they are read and how they are written. What
is written for a value is read back as that value, but more may be read than is ever written. -/

namespace ListingReview.Json

/-- How values of a type are read and written. -/
structure Format (α : Type) where
  reader : Reader α
  write : α → Document

namespace Format

variable {α : Type}

def text : Format String := ⟨Reader.text, .text⟩

def number : Format Number := ⟨Reader.number, Number.document⟩

def unsigned : Format UInt64 := ⟨Reader.unsigned, fun n => .integer n.toNat⟩

def signed : Format Int64 := ⟨Reader.signed, fun n => .integer n.toInt⟩

def float : Format Binary64 := ⟨Reader.float, .float⟩

/-- A value that may be absent. -/
def optional (format : Format α) : Format (Option α) where
  reader := format.reader.optional
  write
    | none => .null
    | some value => format.write value

/-- A list of values. -/
def list (item : Format α) : Format (List α) where
  reader := item.reader.list
  write items := .list (items.map item.write)

/-- One of the values given, by its name. -/
def choice (values : List α) (name : α → String) : Format α where
  reader := Reader.choice (values.map fun value => (name value, value))
  write value := .text (name value)

end Format

end ListingReview.Json
