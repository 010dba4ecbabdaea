import QueryGate.Proofs.Dsn.Tls
/-!
# A TLS setting is applied once

What `applyTls` adds stands behind the text and is a piece by itself, whatever the
text ends with. So `applyTls` finds the mode that it added before, and adds no
other.
-/

namespace QueryGate.Dsn

open Text (cutFirst pieces)

variable {d ssl : List Char}

/-- Behind the first question mark a text can go on. -/
theorem cutFirst_mark_append {front query : List Char} (h : cutFirst '?' d = some (front, query))
    (added : List Char) : cutFirst '?' (d ++ added) = some (front, query ++ added) := by
  obtain ⟨rfl, hfront⟩ := Text.cutFirst_eq_some.1 h
  rw [List.append_assoc, List.cons_append]
  exact Text.cutFirst_append hfront (query ++ added)

/-- A mode that is written is one piece, with the separator in front of it or where
none is needed. -/
theorem modeText_mem_pieces {query sep : List Char}
    (h : sep = ['&'] ∨ sep = [] ∧ (query = [] ∨ query.getLast? = some '&')) (mode : TlsMode) :
    modeText mode ∈ pieces '&' (query ++ (sep ++ modeText mode)) := by
  have one : pieces '&' (modeText mode) = [modeText mode] :=
    Text.pieces_of_not_mem (by cases mode <;> decide)
  rcases h with rfl | ⟨rfl, rfl | last⟩
  · rw [List.singleton_append, Text.pieces_append, one]
    simp
  · simp [one]
  · obtain ⟨front, rfl⟩ := List.getLast?_eq_some_iff.1 last
    rw [List.nil_append, List.append_assoc, List.singleton_append, Text.pieces_append, one]
    simp

theorem tlsKey_prefix_modeText (mode : TlsMode) : tlsKey <+: modeText mode :=
  List.prefix_append tlsKey mode.value

theorem applyTls_of_off (off : TlsMode.ofSetting ssl = .disabled) : applyTls d ssl = d := by
  simp only [applyTls, off]

/-- A setting adds at the end, if it adds anything. -/
theorem prefix_applyTls (d ssl : List Char) : d <+: applyTls d ssl := by
  by_cases off : TlsMode.ofSetting ssl = .disabled
  · simp only [applyTls_of_off off, List.prefix_refl]
  · by_cases finds : FindsMode d
    · simp only [applyTls_of_finds finds, List.prefix_refl]
    · by_cases mark : '?' ∈ d
      · obtain ⟨front, query, hd⟩ := Text.exists_cutFirst mark
        obtain ⟨sep, applied, -⟩ := applyTls_of_mark off finds hd
        rw [applied]
        apply List.prefix_append
      · rw [applyTls_of_no_mark off mark]
        apply List.prefix_append

/-- Where a setting asks for encryption, its text says a mode. -/
theorem findsMode_applyTls (d : List Char) (on : TlsMode.ofSetting ssl ≠ .disabled) :
    FindsMode (applyTls d ssl) := by
  by_cases finds : FindsMode d
  · rwa [applyTls_of_finds finds]
  · by_cases mark : '?' ∈ d
    · obtain ⟨front, query, hd⟩ := Text.exists_cutFirst mark
      obtain ⟨sep, applied, hsep⟩ := applyTls_of_mark on finds hd
      rw [applied]
      exact ⟨front, _, cutFirst_mark_append hd _, _, modeText_mem_pieces hsep _,
        tlsKey_prefix_modeText _⟩
    · have alone : modeText (TlsMode.ofSetting ssl) ∈
          pieces '&' ([] ++ ([] ++ modeText (TlsMode.ofSetting ssl))) :=
        modeText_mem_pieces (.inr ⟨rfl, .inl rfl⟩) _
      rw [applyTls_of_no_mark on mark]
      exact ⟨d, _, Text.cutFirst_append mark _, _, alone, tlsKey_prefix_modeText _⟩

/-- What a text had stays in front. Once a setting that is not off is applied, the
text says a mode, and no setting changes it again. -/
theorem applied_once (d a : List Char) :
    d <+: applyTls d a ∧
      (Text.lower (Text.trim a) ∉ TlsMode.offSettings →
        FindsMode (applyTls d a) ∧ ∀ b, applyTls (applyTls d a) b = applyTls d a) := by
  refine ⟨prefix_applyTls d a, ?_⟩
  intro on
  have finds : FindsMode (applyTls d a) := findsMode_applyTls d (ofSetting_on on)
  exact ⟨finds, fun b => applyTls_of_finds finds⟩

/-- The text cannot be read, and its parameters end with a separator. -/
theorem applied_once_unreadable :
    Text.lower (Text.trim "Skip-Verify ".toList) ∉ TlsMode.offSettings ∧
    applyTls "shop?charset=latin1&".toList "Skip-Verify ".toList =
      "shop?charset=latin1&tls=skip-verify".toList ∧
    applyTls (applyTls "shop?charset=latin1&".toList "Skip-Verify ".toList) "true".toList =
      "shop?charset=latin1&tls=skip-verify".toList := by
  have on : Text.lower (Text.trim "Skip-Verify ".toList) ∉ TlsMode.offSettings := by decide +kernel
  have applied : applyTls "shop?charset=latin1&".toList "Skip-Verify ".toList =
      "shop?charset=latin1&tls=skip-verify".toList := by decide +kernel
  refine ⟨on, applied, ?_⟩
  rw [((applied_once "shop?charset=latin1&".toList "Skip-Verify ".toList).2 on).2 "true".toList]
  exact applied

end QueryGate.Dsn
