import WordMerge.Template.Reading

namespace WordMerge

namespace Reading

/-- `Passes r before rest final`: where `r` holds back `before`, it passes the characters `rest` and
is `final` then. -/
inductive Passes : Reading → Text → Text → Reading → Prop
  | settle {r before} : r.pending = none → Passes r before [] (r.plain before.reverse)
  | wait {r before tag} : r.pending = some tag → Passes r before [] r
  | first {r before rest final} : r.pending = none →
      Passes (r.plain before.reverse).beginTag [] rest final →
      Passes r before ('\x7b' :: rest) final
  | again {r before rest final tag} : r.pending = some tag →
      Passes r.abandon.beginTag [] rest final → Passes r before ('\x7b' :: rest) final
  | finish {r before rest final tag} : r.pending = some tag →
      Passes ({ r with pending := none }.finishTag tag) [] rest final →
      Passes r before ('\x7d' :: rest) final
  | unopened {r before rest final} : r.pending = none →
      Passes (r.report (.unopenedTag (Text.trim (Entity.unescape before.reverse))))
        ('\x7d' :: before) rest final →
      Passes r before ('\x7d' :: rest) final
  | extend {r before rest final tag c} : r.pending = some tag → c ≠ '\x7b' → c ≠ '\x7d' →
      Passes { r with pending := some { tag with raw := c :: tag.raw } } [] rest final →
      Passes r before (c :: rest) final
  | hold {r before rest final c} : r.pending = none → c ≠ '\x7b' → c ≠ '\x7d' →
      Passes r (c :: before) rest final → Passes r before (c :: rest) final

/-- Passing character data is a row of such steps. -/
theorem passes_characters (r : Reading) (before rest : Text) :
    r.Passes before rest (r.characters before rest) := by
  induction rest generalizing r before with
  | nil =>
    cases pending : r.pending with
    | none => simpa [characters, pending] using Passes.settle pending
    | some tag => simpa [characters, pending] using Passes.wait pending
  | cons c rest ih =>
    by_cases opens : c = '\x7b'
    · subst opens
      cases pending : r.pending with
      | none => simpa [characters, pending] using Passes.first pending (ih _ _)
      | some tag => simpa [characters, pending] using Passes.again pending (ih _ _)
    · by_cases closes : c = '\x7d'
      · subst closes
        cases pending : r.pending with
        | none => simpa [characters, pending] using Passes.unopened pending (ih _ _)
        | some tag => simpa [characters, pending] using Passes.finish pending (ih _ _)
      · cases pending : r.pending with
        | none =>
          simpa [characters, pending, opens, closes] using Passes.hold pending opens closes (ih _ _)
        | some tag =>
          simpa [characters, pending, opens, closes] using
            Passes.extend pending opens closes (ih _ _)

/-- A row of such steps is the passing of character data. -/
theorem Passes.characters_eq {r final : Reading} {before rest : Text}
    (passes : r.Passes before rest final) : r.characters before rest = final := by
  induction passes with
  | settle free => simp [characters, free]
  | wait under => simp [characters, under]
  | first free _ ih => simp [characters, free, ih]
  | again under _ ih => simp [characters, under, ih]
  | finish under _ ih => simp [characters, under, ih]
  | unopened free _ ih => simpa [characters, free] using ih
  | extend under opens closes _ ih => simp [characters, under, opens, closes, ih]
  | hold free opens closes _ ih => simpa [characters, free, opens, closes] using ih

end Reading

end WordMerge
