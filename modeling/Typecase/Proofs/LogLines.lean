import Typecase.Event
import Typecase.Proofs.Numerals

/-! What a line of the log tells of its event. Each field of the event stands in the line under a
name of its own, and no field is lost in the writing: with its message a line tells one event and
no other. -/

namespace Typecase

theorem Token.text_inj (token other : Token) : token.text = other.text ↔ token = other := by
  constructor
  · intro same
    simp only [text, hexText, String.append_left_inj, String.append_right_inj,
      String.ofList_inj, Numeral.toDigits_inj, UInt64.toNat_inj] at same
    exact congrArg Token.mk same
  · rintro rfl
    rfl

theorem SiteId.raw_inj (site other : SiteId) :
    site.raw.toNat = other.raw.toNat ↔ site = other := by
  cases site
  cases other
  simp [UInt64.toNat_inj]

theorem Adjustment.toInt_inj (adjustment other : Adjustment) :
    adjustment.bytes.toInt = other.bytes.toInt ↔ adjustment = other := by
  cases adjustment
  cases other
  simp [Int64.toInt_inj]

theorem World.text_inj (world other : World) : world.text = other.text ↔ world = other := by
  cases world <;> cases other <;> decide

namespace Event

/-- The named values of a line are those of the event. -/
def IsToldBy (line : List (String × Detail)) : Event → Prop
  | slotMiss token slot evicted =>
    line.lookup "token" = some (.text token.text) ∧ line.lookup "slot" = some (.number slot) ∧
      line.lookup "evicted" = some (.text evicted.text)
  | rehashing population oldBits bits oldShift shift conflicts =>
    line.lookup "population" = some (.number population) ∧
      line.lookup "old_bits" = some (.number oldBits) ∧
      line.lookup "bits" = some (.number bits) ∧
      line.lookup "old_shift" = some (.number oldShift) ∧
      line.lookup "shift" = some (.number shift) ∧
      line.lookup "conflicts" = some (.number conflicts)
  | creatingCache hint bits =>
    line.lookup "hint" = some (.number hint) ∧ line.lookup "bits" = some (.number bits)
  | siteCreated candidates hint strategy cached =>
    line.lookup "candidates" = some (.number candidates) ∧
      line.lookup "hint" = some (.number hint) ∧
      line.lookup "strategy" = some (.text strategy.text) ∧
      line.lookup "cache" = some (.flag cached)
  | siteRegistered site => line.lookup "site" = some (.number site.raw.toNat)
  | noCandidate type candidates =>
    line.lookup "ty" = some (.text type) ∧ line.lookup "candidates" = some (.number candidates)
  | caseResolved type case candidate adjustment =>
    line.lookup "ty" = some (.text type) ∧ line.lookup "case" = some (.number case) ∧
      line.lookup "candidate" = some (.text candidate) ∧
      line.lookup "adjustment" = some (.number adjustment.bytes.toInt)
  | kindMismatch kind type =>
    line.lookup "kind" = some (.number kind) ∧ line.lookup "ty" = some (.text type)

theorem isToldBy_details (event : Event) : event.IsToldBy event.details := by
  cases event <;> simp [IsToldBy, details, List.lookup_cons]

/-- Events of one message that are told by one line are the same. -/
theorem eq_of_isToldBy (line : List (String × Detail)) (event other : Event)
    (alike : event.message = other.message) (told : event.IsToldBy line)
    (also : other.IsToldBy line) : event = other := by
  cases event with
  | slotMiss =>
    cases other with
    | slotMiss => simp_all [IsToldBy, Token.text_inj]
    | _ => simp [message] at alike
  | rehashing =>
    cases other with
    | rehashing => simp_all [IsToldBy]
    | _ => simp [message] at alike
  | creatingCache =>
    cases other with
    | creatingCache => simp_all [IsToldBy]
    | _ => simp [message] at alike
  | siteCreated =>
    cases other with
    | siteCreated => simp_all [IsToldBy, World.text_inj]
    | _ => simp [message] at alike
  | siteRegistered =>
    cases other with
    | siteRegistered => simp_all [IsToldBy, SiteId.raw_inj]
    | _ => simp [message] at alike
  | noCandidate =>
    cases other with
    | noCandidate => simp_all [IsToldBy]
    | _ => simp [message] at alike
  | caseResolved =>
    cases other with
    | caseResolved => simp_all [IsToldBy, Adjustment.toInt_inj]
    | _ => simp [message] at alike
  | kindMismatch =>
    cases other with
    | kindMismatch => simp_all [IsToldBy]
    | _ => simp [message] at alike

/-- With its message and its details an event is told apart from all others. -/
theorem isToldBy_details_iff (event other : Event) :
    other.message = event.message ∧ other.IsToldBy event.details ↔ other = event := by
  constructor
  · rintro ⟨alike, told⟩
    exact eq_of_isToldBy event.details other event alike told event.isToldBy_details
  · rintro rfl
    exact ⟨rfl, other.isToldBy_details⟩

end Event

end Typecase
