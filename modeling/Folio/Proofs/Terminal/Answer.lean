import Folio.Proofs.Terminal.Builtin

namespace Folio.Terminal

open Folio.Command Folio.Contact Folio.Portfolio Folio.Text Folio.Time

def requested? (r : Registry) (i : Invocation) : Option Theme :=
  if r.resolve i.command = "theme" then
    i.args.head?.bind fun arg => Theme.all.find? fun t => t.name = lower (strip arg)
  else none

/-- Does the answer to an invocation show what came before it? -/
def LooksBack (r : Registry) (i : Invocation) : Prop :=
  r.resolve i.command = "history" ∨ r.resolve i.command = "theme" ∧ i.args = []

instance (r : Registry) (i : Invocation) : Decidable (LooksBack r i) :=
  inferInstanceAs (Decidable (r.resolve i.command = "history" ∨
    r.resolve i.command = "theme" ∧ i.args = []))

/-- Contexts that show a handler the same, but for the theme and the history. -/
structure Alike (c c' : Context) : Prop where
  data : c.data = c'.data
  now : c.now = c'.now
  visible : c.visible = c'.visible

variable {c c' : Context}

theorem Alike.shown (hdata : c.data = c'.data) (hnow : c.now = c'.now) (r : Registry) :
    Alike (r.shown c) (r.shown c') :=
  ⟨hdata, hnow, rfl⟩

section Standard

variable (s : Settings) (channel : Option Channel) {i : Invocation} {context : Context}

namespace Builtin

theorem theme_runTheme (i : Invocation) (current : Theme) :
    (runTheme i current).theme = (i.args.head?.bind Theme.named?).getD current := by
  unfold runTheme
  split
  next hargs => rw [hargs]; rfl
  next arg rest hargs =>
    rw [Theme.named?_lower, hargs, List.head?_cons, Option.bind_some]
    cases Theme.named? arg <;> rfl

theorem settled_theme (i : Invocation) (context : Context) :
    theme.settled s channel i context = runTheme i context.theme := rfl

theorem theme_settled {b : Builtin} (hb : b ≠ theme) :
    (b.settled s channel i context).theme = context.theme := by
  rw [settled, run_eq_output s channel hb]
  cases b.output s channel i context <;> rfl

theorem output_runTheme (hargs : i.args ≠ []) (current current' : Theme) :
    (runTheme i current).output = (runTheme i current').output := by
  unfold runTheme
  split
  next hnone => exact absurd hnone hargs
  next arg rest _ => cases Theme.named? (lower arg) <;> rfl

theorem output_alike {b : Builtin} (hhistory : b ≠ history) (htheme : b ≠ theme)
    (h : Alike c c') : b.output s channel i c = b.output s channel i c' := by
  cases b with
  | history => exact absurd rfl hhistory
  | theme => exact absurd rfl htheme
  | stats => simp only [output, runStats, h.data, h.now]
  | _ => simp only [output, h.data, h.now, h.visible]

theorem settled_alike {b : Builtin} (hhistory : b ≠ history) (htheme : b = theme → i.args ≠ [])
    (h : Alike c c') :
    (b.settled s channel i c).output = (b.settled s channel i c').output := by
  by_cases hb : b = theme
  · subst hb
    rw [settled_theme, settled_theme, output_runTheme (htheme rfl)]
  · rw [settled, settled, run_eq_output s channel hb, run_eq_output s channel hb,
      output_alike s channel hhistory hb h]
    cases b.output s channel i c' <;> rfl

end Builtin

theorem execute_theme {result : Result}
    (h : (Service.standard s channel).registry.execute i context = .ok result) :
    result.theme =
      (requested? (Service.standard s channel).registry i).getD context.theme := by
  rw [execute_eq] at h
  rw [← Except.ok.inj h]
  unfold requested?
  cases hnamed : Builtin.named? ((Service.standard s channel).registry.resolve i.command) with
  | none =>
    have hother : (Service.standard s channel).registry.resolve i.command ≠ "theme" := by
      intro hresolve
      have htheme : Builtin.named? "theme" = some .theme := by decide
      rw [hresolve, htheme] at hnamed
      cases hnamed
    rw [if_neg hother]
    rfl
  | some b =>
    rw [Builtin.named?_eq_some.1 hnamed]
    dsimp only
    by_cases hb : b = .theme
    · subst hb
      rw [if_pos ((Builtin.name_theme .theme (Builtin.mem_all _)).2 rfl), Builtin.settled_theme,
        Builtin.theme_runTheme, Registry.shown_theme]
      rfl
    · rw [if_neg fun hname => hb ((b.name_theme b.mem_all).1 hname),
        Builtin.theme_settled s channel hb, Registry.shown_theme]
      rfl

theorem execute_alike (hi : ¬ LooksBack (Service.standard s channel).registry i)
    (hdata : c.data = c'.data) (hnow : c.now = c'.now) {r r' : Result}
    (h : (Service.standard s channel).registry.execute i c = .ok r)
    (h' : (Service.standard s channel).registry.execute i c' = .ok r') :
    r.output = r'.output := by
  rw [execute_eq] at h h'
  rw [← Except.ok.inj h, ← Except.ok.inj h']
  cases hnamed : Builtin.named? ((Service.standard s channel).registry.resolve i.command) with
  | none => rfl
  | some b =>
    have hname := Builtin.named?_eq_some.1 hnamed
    refine Builtin.settled_alike s channel ?_ ?_ (.shown hdata hnow _)
    · rintro rfl
      exact hi (.inl hname)
    · rintro rfl hargs
      exact hi (.inr ⟨hname, hargs⟩)

end Standard

end Folio.Terminal
