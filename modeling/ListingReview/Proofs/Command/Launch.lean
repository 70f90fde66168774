import ListingReview.Command.Launch
import ListingReview.LogFilter
import ListingReview.Proofs.Net.Address
import ListingReview.Proofs.Text.LetterCase
import ListingReview.Proofs.Text.Numeral

/-! # Commands: how a launch comes out

What becomes of a launch up to listening (`Launch.Comes`): the port among the settings is looked at
first, even where another one is given, then the filter of the log, and last the host, of which only
the one that counts.

* `port?_eq_some_iff`, `endpoint_of_namesHost`: what is read as a port, and what as a host.
* `prepare_of_no_port`, `prepare_of_no_filter`, `prepare_of_filter`: the steps of a launch.
* `launch_comes`: a launch comes out in this way and in no other. -/

namespace ListingReview

/-! ### Ports -/

theorem port?_eq_some_iff {text : String} {port : UInt16} :
    port? text = some port ↔ Text.IsPlusDecimal text.toList port.toNat := by
  rw [← Text.ofPlusDecimal?_eq_some_iff]
  unfold port?
  constructor
  · intro h
    split at h
    · rename_i n hn
      split_ifs at h with hlt
      obtain rfl := Option.some.inj h
      rw [hn, UInt16.toNat_ofNat_of_lt' hlt]
    · exact absurd h.symm (Option.some_ne_none _)
  · intro h
    rw [h]
    simp only [if_pos port.toNat_lt, UInt16.ofNat_toNat]

/-- A text is no port if it is no number or one above sixteen bits. -/
theorem port?_eq_none_iff {text : String} :
    port? text = none ↔ ∀ n, Text.IsPlusDecimal text.toList n → 0xFFFF < n := by
  constructor
  · intro h n hn
    by_contra hle
    have hlt : n < UInt16.size := Nat.lt_succ_of_le (Nat.not_lt.mp hle)
    have hport : (UInt16.ofNat n).toNat = n := UInt16.toNat_ofNat_of_lt' hlt
    rw [← hport, ← port?_eq_some_iff, h] at hn
    exact absurd hn.symm (Option.some_ne_none _)
  · refine fun h => Option.eq_none_iff_forall_ne_some.mpr fun port hport => ?_
    have hlt := h _ (port?_eq_some_iff.mp hport)
    have hbits := port.toNat_lt
    omega

/-! ### Hosts -/

/-- A host is `localhost`, in capital or small letters, or an address. -/
inductive NamesHost : String → Net.Address → Prop where
  | localhost {host : String} :
    List.Forall₂ (fun c letter => c = letter ∨ c = letter.toUpper) host.toList
      "localhost".toList → NamesHost host (.four 127 0 0 1)
  | address {host : String} {address : Net.Address} :
    Net.IsAddress host.toList address → NamesHost host address

theorem sameAscii_localhost_iff {host : String} :
    Text.sameAscii host.toList "localhost".toList = true ↔
      List.Forall₂ (fun c letter => c = letter ∨ c = letter.toUpper) host.toList
        "localhost".toList := by
  have hsmall : "localhost".toList.all
      (fun letter => decide (0x61 ≤ letter.toNat ∧ letter.toNat ≤ 0x7A)) = true := by decide
  exact Text.sameAscii_iff fun letter hletter =>
    of_decide_eq_true (List.all_eq_true.mp hsmall letter hletter)

/-- No address begins as `localhost` does. -/
theorem not_localhost_of_isAddress {text : List Char} {address : Net.Address}
    (h : Net.IsAddress text address) : ¬ List.Forall₂
      (fun c letter => c = letter ∨ c = letter.toUpper) text "localhost".toList := by
  intro hlocal
  obtain ⟨c, hc, hbegin⟩ := h.head
  cases hlocal with
  | cons hletter _ =>
    obtain rfl := Option.some.inj hc
    rcases hletter with rfl | rfl <;> exact absurd hbegin (by decide)

theorem endpoint_of_namesHost {host : String} {address : Net.Address} (h : NamesHost host address)
    (port : UInt16) : ListingReview.endpoint host port = .ok ⟨address, port⟩ := by
  unfold ListingReview.endpoint
  cases h with
  | localhost hlocal => rw [if_pos (sameAscii_localhost_iff.mpr hlocal)]
  | address haddress =>
    have hlocal := not_localhost_of_isAddress haddress
    rw [if_neg (mt sameAscii_localhost_iff.mp hlocal), Net.ofText?_eq_some_iff.mpr haddress]

theorem endpoint_of_not_namesHost {host : String} (h : ∀ address, ¬ NamesHost host address)
    (port : UInt16) : ListingReview.endpoint host port = .error .invalidHost := by
  have hnone : Net.Address.ofText? host.toList = none :=
    Option.eq_none_iff_forall_ne_some.mpr fun address haddress =>
      h address (.address (Net.ofText?_eq_some_iff.mp haddress))
  unfold ListingReview.endpoint
  rw [if_neg fun hlocal => h _ (.localhost (sameAscii_localhost_iff.mp hlocal)), hnone]

/-! ### What counts -/

namespace Settings

variable (settings : Settings)

/-- The port that the settings name, or else the standard one. -/
def NamesPort (port : UInt16) : Prop :=
  match settings Config.portKey with
  | none => port = 5005
  | some text => Text.IsPlusDecimal text.toList port.toNat

/-- The level of the log that the settings name, or else the standard one. -/
def logLevel : String := (settings Config.logLevelKey).getD "info"

/-- A filter among the settings is well formed, or else the level of the log is. -/
def HasFilter (accepts : String → Bool) : Prop :=
  (∃ filter ∈ settings Config.logFilterKey, accepts filter = true) ∨
    accepts settings.logLevel = true

/-- The host that is given, or else that which the settings name, or else the standard one. -/
def hostOr (host : Option String) : String :=
  host.getD ((settings Config.hostKey).getD "127.0.0.1")

theorem namesPort_iff (port : UInt16) :
    port? ((settings Config.portKey).getD "5005") = some port ↔ settings.NamesPort port := by
  unfold NamesPort
  cases settings Config.portKey with
  | none =>
    have hstandard : port? "5005" = some 5005 := by decide
    rw [Option.getD_none, hstandard, Option.some_inj, eq_comm]
  | some text => exact port?_eq_some_iff

end Settings

/-- How a launch comes out: with a fault in the port of the settings, without a filter for the log,
with a fault in the host that counts, or at the address of that host and at the port that counts. -/
inductive Launch.Comes (accepts : String → Bool) (settings : Settings) (host : Option String)
    (port : Option UInt16) : Except Failure Net.Endpoint → Prop where
  | invalidPort {text : String} : settings Config.portKey = some text →
    (∀ n, Text.IsPlusDecimal text.toList n → 0xFFFF < n) →
      Comes accepts settings host port (.error (.config .invalidPort))
  | noFilter {own : UInt16} : settings.NamesPort own → ¬ settings.HasFilter accepts →
      Comes accepts settings host port (.error (.telemetry (.filter settings.logLevel)))
  | invalidHost {own : UInt16} : settings.NamesPort own → settings.HasFilter accepts →
    (∀ address, ¬ NamesHost (settings.hostOr host) address) →
      Comes accepts settings host port (.error (.config .invalidHost))
  | listens {own : UInt16} {address : Net.Address} : settings.NamesPort own →
    settings.HasFilter accepts → NamesHost (settings.hostOr host) address →
      Comes accepts settings host port (.ok ⟨address, port.getD own⟩)

/-! ### The steps -/

section Steps

variable {accepts : String → Bool} {settings : Settings} {host : Option String}
  {port : Option UInt16}

theorem hasFilter_iff {config : Config} (h : config.logLevel = settings.logLevel) :
    hasFilter accepts settings config = true ↔ settings.HasFilter accepts := by
  unfold hasFilter Settings.HasFilter
  rw [Bool.or_eq_true, Option.any_eq_true, h]
  rfl

theorem prepare_of_no_port (h : port? ((settings Config.portKey).getD "5005") = none) :
    Launch.prepare accepts settings host port = .error (.config .invalidPort) := by
  unfold Launch.prepare Config.load
  rw [h]

variable {own : UInt16} (hport : settings.NamesPort own)
include hport

theorem prepare_of_no_filter (hfilter : ¬ settings.HasFilter accepts) :
    Launch.prepare accepts settings host port =
      .error (.telemetry (.filter settings.logLevel)) := by
  have hnone {config : Config} (h : config.logLevel = settings.logLevel) :
      (!hasFilter accepts settings config) = true := by
    rw [Bool.not_eq_true', ← Bool.not_eq_true, hasFilter_iff h]
    exact hfilter
  unfold Launch.prepare Config.load
  rw [(settings.namesPort_iff own).mpr hport]
  exact if_pos (hnone rfl)

/-- With a port and a filter it is up to the host. -/
theorem prepare_of_filter (hfilter : settings.HasFilter accepts) :
    (Launch.prepare accepts settings host port).map Launch.endpoint =
      (ListingReview.endpoint (settings.hostOr host) (port.getD own)).mapError .config := by
  have hsome {config : Config} (h : config.logLevel = settings.logLevel) :
      ¬ (!hasFilter accepts settings config) = true := by
    rw [Bool.not_eq_true', Bool.not_eq_false, hasFilter_iff h]
    exact hfilter
  unfold Launch.prepare Config.load
  rw [(settings.namesPort_iff own).mpr hport]
  dsimp only
  rw [if_neg (hsome rfl)]
  unfold Config.endpoint Config.override Settings.hostOr
  cases ListingReview.endpoint (host.getD ((settings Config.hostKey).getD "127.0.0.1"))
    (port.getD own) <;> rfl

end Steps

/-! ### The launch -/

/-- Only the settings that count are looked at. -/
theorem Launch.Comes.congr {accepts : String → Bool} {settings others : Settings}
    {host : Option String} {port : Option UInt16} {outcome : Except Failure Net.Endpoint}
    (hkeys : ∀ key ∈ [Config.portKey, Config.logLevelKey, Config.logFilterKey],
      others key = settings key)
    (hhost : host = none → others Config.hostKey = settings Config.hostKey)
    (h : Launch.Comes accepts others host port outcome) :
    Launch.Comes accepts settings host port outcome := by
  have hport : others Config.portKey = settings Config.portKey := hkeys _ (by simp)
  have hlevel : others.logLevel = settings.logLevel :=
    congrArg (Option.getD · "info") (hkeys Config.logLevelKey (by simp))
  have hname : others.hostOr host = settings.hostOr host := by
    unfold Settings.hostOr
    cases host with
    | none => rw [hhost rfl]
    | some given => rfl
  have hnames {own : UInt16} (hown : others.NamesPort own) : settings.NamesPort own := by
    unfold Settings.NamesPort at hown ⊢
    rwa [hport] at hown
  have hfilter : others.HasFilter accepts ↔ settings.HasFilter accepts := by
    unfold Settings.HasFilter
    rw [hkeys Config.logFilterKey (by simp), hlevel]
  cases h with
  | invalidPort htext hbad => exact .invalidPort (hport ▸ htext) hbad
  | noFilter hown hnone =>
    rw [hlevel]
    exact .noFilter (hnames hown) (mt hfilter.mpr hnone)
  | invalidHost hown hsome hbad =>
    exact .invalidHost (hnames hown) (hfilter.mp hsome) (hname ▸ hbad)
  | listens hown hsome hnamed =>
    exact .listens (hnames hown) (hfilter.mp hsome) (hname ▸ hnamed)

theorem comes_prepare (accepts : String → Bool) (settings : Settings) (host : Option String)
    (port : Option UInt16) :
    Launch.Comes accepts settings host port
      ((Launch.prepare accepts settings host port).map Launch.endpoint) := by
  cases hport : port? ((settings Config.portKey).getD "5005") with
  | none =>
    rw [prepare_of_no_port hport]
    cases htext : settings Config.portKey with
    | none =>
      rw [htext] at hport
      exact absurd hport (by decide)
    | some text =>
      rw [htext] at hport
      exact .invalidPort htext (port?_eq_none_iff.mp hport)
  | some own =>
    have hown := (settings.namesPort_iff own).mp hport
    by_cases hfilter : settings.HasFilter accepts
    · rw [prepare_of_filter hown hfilter]
      by_cases hhost : ∃ address, NamesHost (settings.hostOr host) address
      · obtain ⟨address, haddress⟩ := hhost
        rw [endpoint_of_namesHost haddress]
        exact .listens hown hfilter haddress
      · have hnot := not_exists.mp hhost
        rw [endpoint_of_not_namesHost hnot]
        exact .invalidHost hown hfilter hnot
    · rw [prepare_of_no_filter hown hfilter]
      exact .noFilter hown hfilter

theorem prepare_of_comes {accepts : String → Bool} {settings : Settings} {host : Option String}
    {port : Option UInt16} {outcome : Except Failure Net.Endpoint}
    (h : Launch.Comes accepts settings host port outcome) :
    (Launch.prepare accepts settings host port).map Launch.endpoint = outcome := by
  cases h with
  | invalidPort htext hbad =>
    rw [prepare_of_no_port (by rw [htext]; exact port?_eq_none_iff.mpr hbad)]
    rfl
  | noFilter hown hnone =>
    rw [prepare_of_no_filter hown hnone]
    rfl
  | invalidHost hown hsome hbad =>
    rw [prepare_of_filter hown hsome, endpoint_of_not_namesHost hbad]
    rfl
  | listens hown hsome hnamed =>
    rw [prepare_of_filter hown hsome, endpoint_of_namesHost hnamed]
    rfl

/-- **How a launch comes out** is settled by the port of the settings, the filters of the log, the
host that counts and the port that counts, in this order. No other setting has a part in it, nor has
the host of the settings where another one is given. -/
theorem launch_comes (accepts : String → Bool) (settings : Settings) (host : Option String)
    (port : Option UInt16) :
    (∀ outcome, (Launch.prepare accepts settings host port).map Launch.endpoint = outcome ↔
      Launch.Comes accepts settings host port outcome) ∧
      ∀ others : Settings,
        (∀ key ∈ [Config.portKey, Config.logLevelKey, Config.logFilterKey],
          others key = settings key) →
        (host = none → others Config.hostKey = settings Config.hostKey) →
          (Launch.prepare accepts others host port).map Launch.endpoint =
            (Launch.prepare accepts settings host port).map Launch.endpoint := by
  refine ⟨fun outcome => ⟨?_, prepare_of_comes⟩, fun others hkeys hhost => ?_⟩
  · rintro rfl
    exact comes_prepare accepts settings host port
  · have hother := comes_prepare accepts others host port
    exact (prepare_of_comes (hother.congr hkeys hhost)).symm

/-- A launch with a host of its own: the port is that of the settings, and their host, which is no
host, does no harm, nor does a filter that is not well formed beside a level that is. -/
theorem launch_comes_for_mapped_host :
    let settings : Settings := fun name =>
      if name = Config.portKey then some "+08080"
      else if name = Config.hostKey then some "nowhere"
      else if name = Config.logFilterKey then some "api=loud"
      else none
    let others : Settings := fun name =>
      if name = Config.hostKey then none
      else if name = Config.stageKey then some "production"
      else settings name
    let host : Option String := some "::FFFF:10.0.0.1"
    let endpoint : Net.Endpoint := ⟨.six [0, 0, 0, 0, 0, 0xFFFF, 0xA00, 1], 8080⟩
    LogFilter.accepts "api=loud" = false ∧
      Launch.Comes LogFilter.accepts settings host none (.ok endpoint) ∧
      (Launch.prepare LogFilter.accepts settings host none).map Launch.endpoint = .ok endpoint ∧
      (∀ key ∈ [Config.portKey, Config.logLevelKey, Config.logFilterKey],
        others key = settings key) ∧
      (Launch.prepare LogFilter.accepts others host none).map Launch.endpoint = .ok endpoint := by
  intro settings others host endpoint
  have hfilters : LogFilter.accepts "api=loud" = false ∧ LogFilter.accepts "info" = true := by
    decide
  have hport : settings.NamesPort 8080 :=
    (settings.namesPort_iff 8080).mp (by decide)
  have hhost : NamesHost (settings.hostOr host) endpoint.address :=
    .address (Net.ofText?_eq_some_iff.mp (by decide))
  have hcomes : Launch.Comes LogFilter.accepts settings host none (.ok endpoint) :=
    .listens hport (.inr hfilters.2) hhost
  have hkeys : ∀ key ∈ [Config.portKey, Config.logLevelKey, Config.logFilterKey],
      others key = settings key := by decide
  obtain ⟨hall, hothers⟩ := launch_comes LogFilter.accepts settings host none
  have hlaunch := (hall _).mpr hcomes
  exact ⟨hfilters.1, hcomes, hlaunch, hkeys,
    (hothers others hkeys fun h => absurd h (Option.some_ne_none _)).trans hlaunch⟩

end ListingReview
