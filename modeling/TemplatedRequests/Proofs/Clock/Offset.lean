import TemplatedRequests.Clock.Offset
import TemplatedRequests.Proofs.Numeral.Written

/-!
Which arguments are an offset, and why others are refused. Whole seconds are split into days, downward
also before zero, and the seconds left of a day; the days have a limit on both sides. Of several reasons
to refuse arguments the first one is told: a part is missing, the amount is no integer, the unit is
unknown, the days are past the limit.
-/

namespace TemplatedRequests.Clock

def unitLengths : List (String × Int) := [("s", 1), ("m", 60), ("h", 3600), ("d", 86400)]

theorem mem_unitLengths_iff {unit : String} {length : Int} :
    (unit, length) ∈ unitLengths ↔ ∃ u, TimeUnit.ofText? unit = some u ∧ u.seconds = length := by
  unfold TimeUnit.ofText? unitLengths
  split <;> simp_all [TimeUnit.seconds, eq_comm]

def digitCount (text : String) : Nat := text.toList.countP Text.isDigit

theorem parse_ne_error {text : String} (h : digitCount text ≤ Numeral.digitLimit)
    (long : Numeral.TooLong) : Numeral.parse text.toList ≠ .error long := by
  intro hparse
  obtain ⟨sign, digits, hwritten, hlong, -⟩ := Numeral.parse_eq_error_iff.1 hparse
  exact Nat.not_le.2 hlong (Nat.le_trans hwritten.length_le_countP h)

namespace Offset

/-- The arguments begin with an integer and a unit that make up this many seconds. -/
inductive Asks : (args : List String) → (seconds : Int) → Prop
  | intro {amount unit : String} {n length : Int} (hamount : Numeral.parse amount.toList = .ok (some n))
    (hunit : (unit, length) ∈ unitLengths) (more : List String) :
    Asks (amount :: unit :: more) (n * length)

/-- The days, rounded downward, are within the limit. -/
def Fits (seconds : Int) : Prop := -999999999 ≤ seconds / 86400 ∧ seconds / 86400 ≤ 999999999

instance (seconds : Int) : Decidable (Fits seconds) := inferInstanceAs (Decidable (_ ∧ _))

/-- The first reason to refuse the arguments, and the fault that tells it. -/
inductive Refuses : (args : List String) → Fault → Prop
  | missing {args : List String} (h : args.length < 2) : Refuses args .offsetWithoutUnit
  | amount {amount : String} (h : Numeral.parse amount.toList = .ok none) (unit : String)
    (more : List String) : Refuses (amount :: unit :: more) (.badAmount amount)
  | unit {amount unit : String} {n : Int} (hamount : Numeral.parse amount.toList = .ok (some n))
    (hunit : ∀ length, (unit, length) ∉ unitLengths) (more : List String) :
    Refuses (amount :: unit :: more) (.badUnit unit)
  | days {amount unit : String} {seconds : Int} {more : List String}
    (h : Asks (amount :: unit :: more) seconds) (hfits : ¬Fits seconds) :
    Refuses (amount :: unit :: more) (.offsetOutOfRange amount unit)

section

variable {args : List String} {seconds : Int}

theorem inRange_ofSeconds_iff : (ofSeconds seconds).inRange = true ↔ Fits seconds := by
  rw [inRange, Bool.and_eq_true, decide_eq_true_eq, decide_eq_true_eq]
  rfl

theorem eq_ofSeconds {o : Offset} (h : o.days * 86400 + o.seconds = seconds) : o = ofSeconds seconds := by
  have hlt := o.seconds_lt
  obtain ⟨days, rest, _⟩ := o
  rw [ofSeconds, mk.injEq]
  dsimp only at h hlt
  omega

theorem parse_of_asks (h : Asks args seconds) (hfits : Fits seconds) :
    parse args = .ok (ofSeconds seconds) := by
  obtain ⟨hamount, hunit, more⟩ := h
  obtain ⟨u, hu, rfl⟩ := mem_unitLengths_iff.1 hunit
  simp only [parse, hamount, hu, inRange_ofSeconds_iff.2 hfits, if_true]

theorem parse_of_refuses {fault : Fault} (h : Refuses args fault) : parse args = .error fault := by
  cases h with
  | missing h =>
    rcases args with _ | ⟨amount, _ | ⟨unit, more⟩⟩
    · rfl
    · rfl
    · rw [List.length_cons, List.length_cons] at h
      omega
  | amount h unit more => simp only [parse, h]
  | @unit amount unit n hamount hunit more =>
    have hnone : TimeUnit.ofText? unit = none := by
      rw [Option.eq_none_iff_forall_ne_some]
      exact fun u hu => hunit u.seconds (mem_unitLengths_iff.2 ⟨u, hu, rfl⟩)
    simp only [parse, hamount, hnone]
  | days h hfits =>
    obtain ⟨hamount, hunit, more⟩ := h
    obtain ⟨u, hu, rfl⟩ := mem_unitLengths_iff.1 hunit
    simp only [parse, hamount, hu]
    exact if_neg (mt inRange_ofSeconds_iff.1 hfits)

theorem asks_or_refuses (hshort : ∀ amount ∈ args.head?, digitCount amount ≤ Numeral.digitLimit) :
    (∃ seconds, Asks args seconds ∧ Fits seconds) ∨ ∃ fault, Refuses args fault := by
  rcases args with _ | ⟨amount, _ | ⟨unit, more⟩⟩
  · exact .inr ⟨_, .missing (by simp)⟩
  · exact .inr ⟨_, .missing (by simp)⟩
  · rcases hamount : Numeral.parse amount.toList with long | (none | n)
    · exact absurd hamount (parse_ne_error (hshort amount rfl) long)
    · exact .inr ⟨_, .amount hamount unit more⟩
    · by_cases hunit : ∃ length, (unit, length) ∈ unitLengths
      · obtain ⟨length, hunit⟩ := hunit
        by_cases hfits : Fits (n * length)
        · exact .inl ⟨_, .intro hamount hunit more, hfits⟩
        · exact .inr ⟨_, .days (.intro hamount hunit more) hfits⟩
      · exact .inr ⟨_, .unit hamount (not_exists.1 hunit) more⟩

theorem asks_of_parse (hshort : ∀ amount ∈ args.head?, digitCount amount ≤ Numeral.digitLimit)
    {o : Offset} (h : parse args = .ok o) : ∃ seconds, Asks args seconds ∧ Fits seconds := by
  obtain hasks | ⟨fault, hrefuses⟩ := asks_or_refuses hshort
  · exact hasks
  · cases h.symm.trans (parse_of_refuses hrefuses)

theorem parse_eq_ok_iff (hshort : ∀ amount ∈ args.head?, digitCount amount ≤ Numeral.digitLimit)
    (o : Offset) : parse args = .ok o ↔ ∃ seconds, Asks args seconds ∧ Fits seconds ∧
      o.days * 86400 + o.seconds = seconds ∧ o.seconds < 86400 := by
  constructor
  · intro h
    obtain ⟨seconds, hasks, hfits⟩ := asks_of_parse hshort h
    obtain rfl := Except.ok.inj (h.symm.trans (parse_of_asks hasks hfits))
    exact ⟨seconds, hasks, hfits, toSeconds_ofSeconds seconds, seconds_lt _⟩
  · rintro ⟨seconds, hasks, hfits, heq, -⟩
    rw [parse_of_asks hasks hfits, eq_ofSeconds heq]

theorem parse_eq_error_iff (hshort : ∀ amount ∈ args.head?, digitCount amount ≤ Numeral.digitLimit)
    (fault : Fault) : parse args = .error fault ↔ Refuses args fault := by
  refine ⟨fun h => ?_, parse_of_refuses⟩
  obtain ⟨seconds, hasks, hfits⟩ | ⟨problem, hrefuses⟩ := asks_or_refuses hshort
  · cases h.symm.trans (parse_of_asks hasks hfits)
  · obtain rfl := Except.error.inj (h.symm.trans (parse_of_refuses hrefuses))
    exact hrefuses

theorem report?_of_refuses {fault : Fault} (h : Refuses args fault) :
    ∃ detail, fault.report? = some ⟨.invalidOffset, detail⟩ := by
  cases h <;> exact ⟨_, rfl⟩

/-- Arguments are read as an offset exactly if they ask for whole seconds whose days are within the
limit, and the offset makes up these seconds. All others are refused for the first reason there is. -/
theorem parse_iff_asks_or_refuses
    (hshort : ∀ amount ∈ args.head?, digitCount amount ≤ Numeral.digitLimit) :
    ((∃ o, parse args = .ok o) ↔ ∃ seconds, Asks args seconds ∧ Fits seconds) ∧
    (∀ o, parse args = .ok o ↔ ∃ seconds, Asks args seconds ∧ Fits seconds ∧
      o.days * 86400 + o.seconds = seconds ∧ o.seconds < 86400) ∧
    (∀ fault, parse args = .error fault ↔ Refuses args fault) ∧
    ∀ fault, Refuses args fault → ∃ detail, fault.report? = some ⟨.invalidOffset, detail⟩ :=
  ⟨⟨fun ⟨_, h⟩ => asks_of_parse hshort h, fun ⟨_, h, hfits⟩ => ⟨_, parse_of_asks h hfits⟩⟩,
    parse_eq_ok_iff hshort, parse_eq_error_iff hshort, fun _ => report?_of_refuses⟩

/-- The lowest offset there is, and one second less. -/
theorem parse_lowest :
    (∀ amount ∈ ["-86399999913600", "s"].head?, digitCount amount ≤ Numeral.digitLimit) ∧
    (∀ amount ∈ ["-86399999913601", "s"].head?, digitCount amount ≤ Numeral.digitLimit) ∧
    (∃ o, parse ["-86399999913600", "s"] = .ok o) ∧
    parse ["-86399999913601", "s"] = .error (.offsetOutOfRange "-86399999913601" "s") := by
  have hlowest : ∀ amount ∈ ["-86399999913600", "s"].head?, digitCount amount ≤ Numeral.digitLimit := by
    simp only [List.head?_cons, Option.mem_some, forall_eq']
    decide
  have hless : ∀ amount ∈ ["-86399999913601", "s"].head?, digitCount amount ≤ Numeral.digitLimit := by
    simp only [List.head?_cons, Option.mem_some, forall_eq']
    decide
  have hasks : Asks ["-86399999913600", "s"] (-86399999913600 * 1) := .intro rfl (by decide) []
  have hasksless : Asks ["-86399999913601", "s"] (-86399999913601 * 1) := .intro rfl (by decide) []
  obtain ⟨hok, -⟩ := parse_iff_asks_or_refuses hlowest
  obtain ⟨-, -, herror, -⟩ := parse_iff_asks_or_refuses hless
  exact ⟨hlowest, hless, hok.2 ⟨_, hasks, by decide⟩, (herror _).2 (.days hasksless (by decide))⟩

end

end Offset

end TemplatedRequests.Clock
