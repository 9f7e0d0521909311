import RedisPy.Commands.Expiry

/-!
# Mutually exclusive options

At most one expiry option may be supplied, and the command carries that one. What is supplied is counted
here, option by option, and not by the values.
-/

namespace RedisPy

variable {F δ : Type}

/-- An expiry option that is supplied. -/
inductive SuppliedTime (δ : Type) where
  | ex (value : ExpiryT)
  | px (value : ExpiryT)
  | exat (value : AbsExpiryT δ)
  | pxat (value : AbsExpiryT δ)

/-- The time in units of so many microseconds: a number is taken as it is, and a duration counts its whole
units. -/
def ExpiryT.inUnits (unit : Int) : ExpiryT → Int
  | int value => value
  | timedelta micros => micros.tdiv unit

/-- The time in units of so many microseconds since the epoch. -/
def AbsExpiryT.inUnits (unit : Int) : AbsExpiryT δ → Int
  | int value => value
  | datetime value => value.moment.micros.tdiv unit

/-- The keyword and the value of an option. -/
def SuppliedTime.words : SuppliedTime δ → List (Arg F)
  | ex value => [.str "EX".toList, .int (value.inUnits 1000000)]
  | px value => [.str "PX".toList, .int (value.inUnits 1000)]
  | exat value => [.str "EXAT".toList, .int (value.inUnits 1000000)]
  | pxat value => [.str "PXAT".toList, .int (value.inUnits 1000)]

/-- The doubles in between do not take the time across a whole number of units; integers are not
converted. -/
def SuppliedTime.Converts : SuppliedTime δ → Prop
  | ex (.timedelta micros) => Double.toInt (totalSeconds micros) = micros.tdiv 1000000
  | px (.timedelta micros) => Double.toInt (Double.nearest (totalSeconds micros * 1000)) = micros.tdiv 1000
  | exat (.datetime value) => Double.toInt value.moment.timestamp = value.moment.micros.tdiv 1000000
  | pxat (.datetime value) =>
    Double.toInt (Double.nearest (value.moment.timestamp * 1000)) = value.moment.micros.tdiv 1000
  | _ => True

namespace ExpiryOptions

/-- The options that are supplied. -/
def supplied (options : ExpiryOptions δ) : List (SuppliedTime δ) :=
  (options.ex.map .ex).toList ++ (options.px.map .px).toList ++ (options.exat.map .exat).toList ++
    (options.pxat.map .pxat).toList

/-- How many options are supplied, `keepttl` or `persist` included. -/
def count (options : ExpiryOptions δ) (flag : Bool) : Nat := options.supplied.length + flag.toNat

/-- Two of the four arguments differ, `None` being a value as any other. -/
def TwoDiffer [DecidableEq δ] (options : ExpiryOptions δ) : Prop :=
  ∃ a ∈ options.values, ∃ b ∈ options.values, a ≠ b

/-- Three of the four arguments differ from one another. -/
def ThreeDiffer [DecidableEq δ] (options : ExpiryOptions δ) : Prop :=
  ∃ a ∈ options.values, ∃ b ∈ options.values, ∃ c ∈ options.values, a ≠ b ∧ a ≠ c ∧ b ≠ c

end ExpiryOptions

/-! ## The commands -/

/-- A call of one of the four methods but for its time options. -/
inductive ExpiringCall (F : Type) where
  | set (name value : Arg F) (nx xx keepttl get : Bool)
  | getex (name : Arg F) (persist : Bool)
  | hsetex (name : Arg F) (key : Option (Arg F)) (value : Arg F) (mapping : List (Arg F × Arg F))
      (items : List (Arg F)) (dataPersistOption : Option HashDataPersistOptions) (keepttl : Bool)
  | hgetex (name : Arg F) (keys : List (Arg F)) (persist : Bool)

namespace ExpiringCall

/-- The method with these time options. -/
def run [DecidableEq δ] (options : ExpiryOptions δ) : ExpiringCall F → Except Exc (Issued F)
  | set name value nx xx keepttl get => BasicKeyCommands.set name value nx xx keepttl get options
  | getex name persist => BasicKeyCommands.getex name persist options
  | hsetex name key value mapping items dataPersistOption keepttl =>
    HashCommands.hsetex name key value mapping items dataPersistOption keepttl options
  | hgetex name keys persist => HashCommands.hgetex name keys persist options

/-- `keepttl` or `persist`. -/
def flag : ExpiringCall F → Bool
  | set _ _ _ _ keepttl _ => keepttl
  | getex _ persist => persist
  | hsetex _ _ _ _ _ _ keepttl => keepttl
  | hgetex _ _ persist => persist

/-- What the other arguments are refused for, whatever the time options are. -/
def complaint : ExpiringCall F → Option Exc
  | set _ _ nx xx _ _ =>
    if nx && xx then some (dataError "``nx`` and ``xx`` are mutually exclusive.") else none
  | getex _ _ => none
  | hsetex _ key _ mapping items _ _ =>
    if key.isNone && mapping.isEmpty && items.isEmpty then
      some (dataError "'hsetex' with no key value pairs")
    else if items.length % 2 ≠ 0 then
      some (dataError
        "'hsetex' with odd number of items. 'items' must contain a list of key/value pairs.")
    else none
  | hgetex _ keys _ =>
    if keys.isEmpty then some (dataError "'hgetex' should have at least one key provided") else none

/-- The command with these words for the time. -/
def command (words : List (Arg F)) : ExpiringCall F → Issued F
  | set name value nx xx keepttl get =>
    { args := [.str "SET".toList, name, value] ++ words ++ flagWord "KEEPTTL" keepttl ++ flagWord "NX" nx ++
        flagWord "XX" xx ++ flagWord "GET" get
      get }
  | getex name persist =>
    { args := [.str "GETEX".toList, name] ++ words ++ flagWord "PERSIST" persist }
  | hsetex name key value mapping items dataPersistOption keepttl =>
    { args := [.str "HSETEX".toList, name] ++ words ++
        (dataPersistOption.map HashDataPersistOptions.value).toList ++ flagWord "KEEPTTL" keepttl ++
        [.str "FIELDS".toList, .int ((hsetexPieces key value mapping items).length / 2 : Nat)] ++
        hsetexPieces key value mapping items }
  | hgetex name keys persist =>
    { args := [.str "HGETEX".toList, name] ++ words ++ flagWord "PERSIST" persist ++
        [.str "FIELDS".toList, .int keys.length] ++ keys }

/-- The complaint about the other arguments, or the command with these words for the time. -/
def issue (call : ExpiringCall F) (words : List (Arg F)) : Except Exc (Issued F) :=
  match call.complaint with
  | some e => .error e
  | none => .ok (call.command words)

/-- Several options are refused, and otherwise the command carries the one that is supplied, unless the
other arguments are refused. -/
structure Exclusive (call : ExpiringCall F) (options : ExpiryOptions δ)
    (outcome : Except Exc (Issued F)) : Prop where
  /-- Two options or more. -/
  refused : 2 ≤ options.count call.flag → ∃ e, outcome = .error e ∧ e.isinstance .dataError = true
  /-- One option or none. -/
  sent : options.count call.flag ≤ 1 →
    outcome = call.issue (options.supplied.flatMap SuppliedTime.words)

end ExpiringCall

/-! ## Counting by values -/

/-- What a set sees of the option's value. -/
def SuppliedTime.hashed : SuppliedTime δ → Hashed δ
  | ex value => value.hashed
  | px value => value.hashed
  | exat value => value.hashed
  | pxat value => value.hashed

namespace ExpiryOptions

variable [DecidableEq δ] (options : ExpiryOptions δ)

/-- The set has at most one element for each option that is supplied, and `None`. -/
theorem card_opset_le : options.opset.card ≤ options.supplied.length + 1 := by
  have among : options.opset ⊆
      insert none (options.supplied.map fun s => some s.hashed).toFinset := by
    intro value present
    obtain ⟨ex, px, exat, pxat⟩ := options
    simp only [opset, values, List.mem_toFinset, List.mem_cons, List.not_mem_nil, or_false] at present
    rw [Finset.mem_insert, List.mem_toFinset, List.mem_map]
    rcases present with rfl | rfl | rfl | rfl
    · cases ex with
      | none => exact .inl rfl
      | some value => exact .inr ⟨.ex value, by simp [supplied], rfl⟩
    · cases px with
      | none => exact .inl rfl
      | some value => exact .inr ⟨.px value, by simp [supplied], rfl⟩
    · cases exat with
      | none => exact .inl rfl
      | some value => exact .inr ⟨.exat value, by simp [supplied], rfl⟩
    · cases pxat with
      | none => exact .inl rfl
      | some value => exact .inr ⟨.pxat value, by simp [supplied], rfl⟩
  calc options.opset.card
    _ ≤ (insert none (options.supplied.map fun s => some s.hashed).toFinset).card :=
      Finset.card_le_card among
    _ ≤ (options.supplied.map fun s => some s.hashed).toFinset.card + 1 := Finset.card_insert_le _ _
    _ ≤ (options.supplied.map fun s => some s.hashed).length + 1 :=
      Nat.add_le_add_right (List.toFinset_card_le _) 1
    _ = options.supplied.length + 1 := by rw [List.length_map]

/-- The size of the set tells how many arguments differ from one another. -/
theorem rejects_iff (flag : Bool) :
    options.rejects flag = true ↔ options.ThreeDiffer ∨ (flag = true ∧ options.TwoDiffer) := by
  have three : 2 < options.opset.card ↔ options.ThreeDiffer := by
    unfold opset ThreeDiffer
    rw [Finset.two_lt_card]
    simp only [List.mem_toFinset]
  have two : 1 < options.opset.card ↔ options.TwoDiffer := by
    unfold opset TwoDiffer
    rw [Finset.one_lt_card]
    simp only [List.mem_toFinset]
  unfold rejects
  rw [Bool.or_eq_true, Bool.and_eq_true, decide_eq_true_iff, decide_eq_true_iff, three, two,
    and_comm (a := options.TwoDiffer)]

/-- What is rejected are several options. -/
theorem two_le_count_of_rejects {flag : Bool} (rejected : options.rejects flag = true) :
    2 ≤ options.count flag := by
  have size := options.card_opset_le
  unfold rejects at rejected
  rw [Bool.or_eq_true, Bool.and_eq_true, decide_eq_true_iff, decide_eq_true_iff] at rejected
  unfold count
  rcases rejected with three | ⟨two, flagged⟩
  · omega
  · rw [flagged, Bool.toNat_true]
    omega

end ExpiryOptions

/-! ## The option that is sent -/

/-- With at most one option, that one is picked, and sent with its value exactly if it converts. -/
theorem extractExpireFlags_eq_iff (options : ExpiryOptions δ) (single : options.supplied.length ≤ 1) :
    (extractExpireFlags options : List (Arg F)) = options.supplied.flatMap SuppliedTime.words ↔
      ∀ s ∈ options.supplied, s.Converts := by
  have two (keyword : String) (left right : Int) :
      ([.str keyword.toList, .int left] : List (Arg F)) = [.str keyword.toList, .int right] ↔
        left = right := by
    simp
  obtain ⟨ex, px, exat, pxat⟩ := options
  match ex, px, exat, pxat with
  | none, none, none, none => exact iff_of_true rfl (by simp [ExpiryOptions.supplied])
  | some value, none, none, none =>
    have only : (ExpiryOptions.mk (some value) none none none : ExpiryOptions δ).supplied = [.ex value] := rfl
    rw [only, List.forall_mem_singleton, List.flatMap_singleton]
    cases value with
    | int value => exact iff_of_true rfl trivial
    | timedelta micros => exact two _ _ _
  | none, some value, none, none =>
    have only : (ExpiryOptions.mk none (some value) none none : ExpiryOptions δ).supplied = [.px value] := rfl
    rw [only, List.forall_mem_singleton, List.flatMap_singleton]
    cases value with
    | int value => exact iff_of_true rfl trivial
    | timedelta micros => exact two _ _ _
  | none, none, some value, none =>
    have only : (ExpiryOptions.mk none none (some value) none : ExpiryOptions δ).supplied = [.exat value] := rfl
    rw [only, List.forall_mem_singleton, List.flatMap_singleton]
    cases value with
    | int value => exact iff_of_true rfl trivial
    | datetime value => exact two _ _ _
  | none, none, none, some value =>
    have only : (ExpiryOptions.mk none none none (some value) : ExpiryOptions δ).supplied = [.pxat value] := rfl
    rw [only, List.forall_mem_singleton, List.flatMap_singleton]
    cases value with
    | int value => exact iff_of_true rfl trivial
    | datetime value => exact two _ _ _
  | some _, some _, _, _ | some _, none, some _, _ | some _, none, none, some _ | none, some _, some _, _
  | none, some _, none, some _ | none, none, some _, some _ =>
    simp only [ExpiryOptions.supplied, Option.map_some, Option.map_none, Option.toList_some,
      Option.toList_none, List.length_append, List.length_cons, List.length_nil] at single
    omega

/-! ## The methods -/

namespace ExpiringCall

variable [DecidableEq δ]

/-- The words of a command tell which one it is. -/
theorem command_inj (call : ExpiringCall F) {words others : List (Arg F)} :
    call.command words = call.command others ↔ words = others := by
  cases call <;> simp [command]

/-- What the other arguments are refused for is a `DataError`. -/
theorem complaint_isinstance {call : ExpiringCall F} {e : Exc} (refused : call.complaint = some e) :
    e.isinstance .dataError = true := by
  have raised (message : String) : (dataError message).isinstance .dataError = true := rfl
  cases call with
  | set name value nx xx keepttl get =>
    obtain ⟨-, ⟨⟩⟩ := Option.ite_none_right_eq_some.mp refused
    exact raised _
  | getex name persist => cases refused
  | hsetex name key value mapping items dataPersistOption keepttl =>
    unfold complaint at refused
    dsimp only at refused
    split at refused
    · cases refused
      exact raised _
    · obtain ⟨-, ⟨⟩⟩ := Option.ite_none_right_eq_some.mp refused
      exact raised _
  | hgetex name keys persist =>
    obtain ⟨-, ⟨⟩⟩ := Option.ite_none_right_eq_some.mp refused
    exact raised _

/-- A call that is refused. -/
theorem issue_of_complaint {call : ExpiringCall F} {e : Exc} (refused : call.complaint = some e)
    (words : List (Arg F)) : call.issue words = .error e := by
  rw [issue, refused]

/-- A call that is not. -/
theorem issue_of_none {call : ExpiringCall F} (accepted : call.complaint = none) (words : List (Arg F)) :
    call.issue words = .ok (call.command words) := by
  rw [issue, accepted]

/-- Options that are not rejected leave the complaint, or the command with what is extracted. -/
theorem run_of_not_rejects (call : ExpiringCall F) (options : ExpiryOptions δ)
    (passed : ¬options.rejects call.flag = true) :
    call.run options = call.issue (extractExpireFlags options) := by
  cases call with
  | set name value nx xx keepttl get =>
    show BasicKeyCommands.set name value nx xx keepttl get options = _
    have passed : ¬options.rejects keepttl = true := passed
    unfold BasicKeyCommands.set
    rw [if_neg passed]
    by_cases both : (nx && xx) = true
    · have refused : (set name value nx xx keepttl get).complaint =
          some (dataError "``nx`` and ``xx`` are mutually exclusive.") := if_pos both
      rw [if_pos both, issue_of_complaint refused]
    · have accepted : (set name value nx xx keepttl get).complaint = none := if_neg both
      rw [if_neg both, issue_of_none accepted]
      rfl
  | getex name persist =>
    show BasicKeyCommands.getex name persist options = _
    have passed : ¬options.rejects persist = true := passed
    unfold BasicKeyCommands.getex
    rw [if_neg passed, issue_of_none rfl]
    simp only [command, List.append_assoc]
  | hsetex name key value mapping items dataPersistOption keepttl =>
    show HashCommands.hsetex name key value mapping items dataPersistOption keepttl options = _
    have passed : ¬options.rejects keepttl = true := passed
    unfold HashCommands.hsetex
    by_cases nothing : (key.isNone && mapping.isEmpty && items.isEmpty) = true
    · have refused : (hsetex name key value mapping items dataPersistOption keepttl).complaint =
          some (dataError "'hsetex' with no key value pairs") := if_pos nothing
      rw [if_pos nothing, issue_of_complaint refused]
    · by_cases odd : items.length % 2 ≠ 0
      · have refused : (hsetex name key value mapping items dataPersistOption keepttl).complaint =
            some (dataError
              "'hsetex' with odd number of items. 'items' must contain a list of key/value pairs.") :=
          (if_neg nothing).trans (if_pos odd)
        rw [if_neg nothing, if_pos odd, issue_of_complaint refused]
      · have accepted : (hsetex name key value mapping items dataPersistOption keepttl).complaint = none :=
          (if_neg nothing).trans (if_neg odd)
        rw [if_neg nothing, if_neg odd, if_neg passed, issue_of_none accepted]
        simp only [command, List.append_assoc]
  | hgetex name keys persist =>
    show HashCommands.hgetex name keys persist options = _
    have passed : ¬options.rejects persist = true := passed
    unfold HashCommands.hgetex
    by_cases nothing : keys.isEmpty = true
    · have refused : (hgetex name keys persist).complaint =
          some (dataError "'hgetex' should have at least one key provided") := if_pos nothing
      rw [if_pos nothing, issue_of_complaint refused]
    · have accepted : (hgetex name keys persist).complaint = none := if_neg nothing
      rw [if_neg nothing, if_neg passed, issue_of_none accepted]
      simp only [command, List.append_assoc]

/-- Options that are rejected raise `DataError`, if the other arguments do not. -/
theorem run_of_rejects (call : ExpiringCall F) (options : ExpiryOptions δ)
    (rejected : options.rejects call.flag = true) :
    ∃ e, call.run options = .error e ∧ e.isinstance .dataError = true := by
  cases call with
  | set name value nx xx keepttl get => exact ⟨_, if_pos rejected, rfl⟩
  | getex name persist => exact ⟨_, if_pos rejected, rfl⟩
  | hsetex name key value mapping items dataPersistOption keepttl =>
    show ∃ e, HashCommands.hsetex name key value mapping items dataPersistOption keepttl options = _ ∧ _
    unfold HashCommands.hsetex
    split
    · exact ⟨_, rfl, rfl⟩
    · split
      · exact ⟨_, rfl, rfl⟩
      · exact ⟨_, if_pos rejected, rfl⟩
  | hgetex name keys persist =>
    show ∃ e, HashCommands.hgetex name keys persist options = _ ∧ _
    unfold HashCommands.hgetex
    split
    · exact ⟨_, rfl, rfl⟩
    · exact ⟨_, if_pos rejected, rfl⟩

/-- A method takes one option exactly as it is told, unless the other arguments are refused, exactly if a
single option converts, and of several ones three differ, or two differ and the flag is given. -/
theorem run_exclusive_iff (call : ExpiringCall F) (options : ExpiryOptions δ) :
    call.Exclusive options (call.run options) ↔ (call.complaint = none →
      (options.count call.flag ≤ 1 → ∀ s ∈ options.supplied, s.Converts) ∧
      (2 ≤ options.count call.flag →
        options.ThreeDiffer ∨ (call.flag = true ∧ options.TwoDiffer))) := by
  rw [← options.rejects_iff]
  by_cases rejected : options.rejects call.flag = true
  · -- several options, and they are refused
    have several := options.two_le_count_of_rejects rejected
    have tooMany {P : Prop} (single : options.count call.flag ≤ 1) : P := by omega
    exact iff_of_true ⟨fun _ => call.run_of_rejects options rejected, tooMany⟩
      fun _ => ⟨tooMany, fun _ => rejected⟩
  · rw [call.run_of_not_rejects options rejected]
    cases refused : call.complaint with
    | some e =>
      rw [issue_of_complaint refused]
      refine iff_of_true ⟨fun _ => ⟨e, rfl, complaint_isinstance refused⟩,
        fun _ => (issue_of_complaint refused _).symm⟩ ?_
      intro missing
      cases missing
    | none =>
      rw [issue_of_none refused]
      constructor
      · rintro ⟨refuses, sends⟩ -
        refine ⟨fun single => ?_, fun several => ?_⟩
        · have sent := sends single
          rw [issue_of_none refused, Except.ok.injEq, command_inj] at sent
          exact (extractExpireFlags_eq_iff options (by unfold ExpiryOptions.count at single; omega)).mp sent
        · obtain ⟨e, raised, -⟩ := refuses several
          cases raised
      · intro holds
        obtain ⟨converts, differ⟩ := holds rfl
        refine ⟨fun several => absurd (differ several) rejected, fun single => ?_⟩
        rw [issue_of_none refused, Except.ok.injEq, command_inj]
        exact (extractExpireFlags_eq_iff options (by unfold ExpiryOptions.count at single; omega)).mpr
          (converts single)

/-- Two times that are equal are taken for one: `SET` is sent with `EX`, and `px` is lost. -/
theorem equal_times_are_sent :
    let call : ExpiringCall Nat :=
      .set (.str "k".toList) (.str "v".toList) false false false false
    let options : ExpiryOptions Nat :=
      { ex := some (.int 10), px := some (.int 10), exat := none, pxat := none }
    options.count call.flag = 2 ∧
      call.run options = .ok
        { args := [.str "SET".toList, .str "k".toList, .str "v".toList, .str "EX".toList, .int 10] } ∧
      ¬call.Exclusive options (call.run options) := by
  intro call options
  have sent : call.run options = .ok
      { args := [.str "SET".toList, .str "k".toList, .str "v".toList, .str "EX".toList, .int 10] } := by
    rw [run_of_not_rejects call options (by decide)]
    rfl
  refine ⟨rfl, sent, fun exclusive => ?_⟩
  obtain ⟨e, raised, -⟩ := exclusive.refused (Nat.le_refl 2)
  rw [sent] at raised
  cases raised

end ExpiringCall

/-- 1005 ms are sent as `PX 1004`. -/
example : Double.toInt (Double.nearest (totalSeconds 1005000 * 1000)) = 1004 := by decide +kernel

/-! ## Times of whole seconds -/

/-- A time of so many seconds and nothing below, if it is a duration or a `datetime`. -/
def SuppliedTime.Whole (seconds : Int) : SuppliedTime δ → Prop
  | ex (.timedelta micros) | px (.timedelta micros) => micros = seconds * 1000000
  | exat (.datetime value) | pxat (.datetime value) =>
    value.moment = .aware (seconds * 1000000) ∨ value.moment = .naive seconds 0
  | _ => True

/-- Whole seconds are a double. -/
theorem totalSeconds_whole {seconds : Int} (small : |seconds| < 2 ^ 53) :
    totalSeconds (seconds * 1000000) = seconds := by
  have quotient : ((seconds * 1000000 : Int) : ℚ) / 1000000 = seconds := by
    push_cast
    field_simp
  rw [totalSeconds, quotient, Double.nearest_intCast small]

/-- So is the timestamp of a point in time at a whole second. -/
theorem timestamp_whole {moment : Moment} {seconds : Int} (small : |seconds| < 2 ^ 53)
    (whole : moment = .aware (seconds * 1000000) ∨ moment = .naive seconds 0) :
    moment.timestamp = seconds ∧ moment.micros = seconds * 1000000 := by
  rcases whole with rfl | rfl
  · exact ⟨totalSeconds_whole small, rfl⟩
  · refine ⟨?_, by simp [Moment.micros]⟩
    have fraction : Double.nearest ((0 : ℕ) / 1000000) = 0 := by
      rw [Nat.cast_zero, zero_div]
      rfl
    rw [Moment.timestamp, fraction, add_zero, Double.nearest_intCast small]

/-- Whole seconds convert, as long as their milliseconds have at most 53 bits. -/
theorem SuppliedTime.converts_of_whole {s : SuppliedTime δ} {seconds : Int}
    (small : |seconds * 1000| < 2 ^ 53) (whole : s.Whole seconds) : s.Converts := by
  have fits : |seconds| < 2 ^ 53 := by
    rw [abs_lt] at small ⊢
    omega
  have millis : Double.nearest ((seconds : ℚ) * 1000) = ((seconds * 1000 : Int) : ℚ) := by
    rw [← Double.nearest_intCast small]
    push_cast
    rfl
  have secondsOf : (seconds * 1000000).tdiv 1000000 = seconds := Int.mul_tdiv_cancel _ (by decide)
  have millisOf : (seconds * 1000000).tdiv 1000 = seconds * 1000 := by
    rw [show seconds * 1000000 = seconds * 1000 * 1000 by omega]
    exact Int.mul_tdiv_cancel _ (by decide)
  match s with
  | ex (.int _) | px (.int _) | exat (.int _) | pxat (.int _) => trivial
  | ex (.timedelta micros) =>
    obtain rfl : micros = seconds * 1000000 := whole
    show Double.toInt (totalSeconds _) = _
    rw [totalSeconds_whole fits, Double.toInt_intCast, secondsOf]
  | px (.timedelta micros) =>
    obtain rfl : micros = seconds * 1000000 := whole
    show Double.toInt (Double.nearest (totalSeconds _ * 1000)) = _
    rw [totalSeconds_whole fits, millis, Double.toInt_intCast, millisOf]
  | exat (.datetime value) =>
    obtain ⟨timestamp, micros⟩ := timestamp_whole fits whole
    show Double.toInt value.moment.timestamp = _
    rw [timestamp, micros, Double.toInt_intCast, secondsOf]
  | pxat (.datetime value) =>
    obtain ⟨timestamp, micros⟩ := timestamp_whole fits whole
    show Double.toInt (Double.nearest (value.moment.timestamp * 1000)) = _
    rw [timestamp, micros, millis, Double.toInt_intCast, millisOf]

end RedisPy
