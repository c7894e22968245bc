import Typecase.Adjustment
import Typecase.Token

/-! The log of a switch as data. Every operation that logs returns its events in order,
so a run and its story can be compared. -/

namespace Typecase

/-- Whether a switch may meet types that nobody declared. -/
inductive World where
  | openWorld
  | closedWorld
  deriving DecidableEq

/-- The number of a switch among those of a program. -/
structure SiteId where
  raw : UInt64
  deriving DecidableEq

/-- The number that a hash makes of the place in a source text where a switch stands. -/
def SiteId.ofLocation (hash : String → Nat → Nat → UInt64) (file : String) (line column : Nat) :
    SiteId := ⟨hash file line column⟩

inductive Level where
  | debug
  | trace
  deriving DecidableEq

inductive Event where
  /-- A token was not in its slot, which `evicted` held before. -/
  | slotMiss (token : Token) (slot : Nat) (evicted : Token)
  | rehashing (population oldBits bits oldShift shift conflicts : Nat)
  | creatingCache (hint bits : Nat)
  | siteCreated (candidates hint : Nat) (strategy : World) (cached : Bool)
  | siteRegistered (site : SiteId)
  | noCandidate (type : String) (candidates : Nat)
  | caseResolved (type : String) (case : Nat) (candidate : String) (adjustment : Adjustment)
  /-- A value carries the kind of another type. -/
  | kindMismatch (kind : Nat) (type : String)
  deriving DecidableEq

inductive Detail where
  | number (value : Int)
  | flag (value : Bool)
  | text (value : String)
  deriving DecidableEq

def World.text : World → String
  | openWorld => "Open"
  | closedWorld => "Closed"

namespace Event

def level : Event → Level
  | slotMiss .. => .trace
  | _ => .debug

def message : Event → String
  | slotMiss .. => "slot cache miss"
  | rehashing .. => "rehashing slot cache"
  | creatingCache .. => "creating slot cache"
  | siteCreated .. => "dispatch site created"
  | siteRegistered .. => "registered dispatch site"
  | noCandidate .. => "no candidate matches type"
  | caseResolved .. => "type switch case resolved"
  | kindMismatch .. => "kind tag disagrees with declared type"

/-- The named values logged with the message. -/
def details : Event → List (String × Detail)
  | slotMiss token slot evicted =>
    [("token", .text token.text), ("slot", .number slot), ("evicted", .text evicted.text)]
  | rehashing population oldBits bits oldShift shift conflicts =>
    [("population", .number population), ("old_bits", .number oldBits),
      ("bits", .number bits), ("old_shift", .number oldShift), ("shift", .number shift),
      ("conflicts", .number conflicts)]
  | creatingCache hint bits => [("hint", .number hint), ("bits", .number bits)]
  | siteCreated candidates hint strategy cached =>
    [("candidates", .number candidates), ("hint", .number hint),
      ("strategy", .text strategy.text), ("cache", .flag cached)]
  | siteRegistered site => [("site", .number site.raw.toNat)]
  | noCandidate type candidates => [("ty", .text type), ("candidates", .number candidates)]
  | caseResolved type case candidate adjustment =>
    [("ty", .text type), ("case", .number case), ("candidate", .text candidate),
      ("adjustment", .number adjustment.bytes.toInt)]
  | kindMismatch kind type => [("kind", .number kind), ("ty", .text type)]

end Event

end Typecase
