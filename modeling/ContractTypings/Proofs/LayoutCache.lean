import ContractTypings.Generator.Calls

namespace ContractTypings

theorem Config.layout_setPrettier (c : Config) (on : Bool) (t : FileTree) :
    { c with prettier := on }.layout t = c.layout t := rfl

namespace Generator

variable {t : FileTree} {g g' : Generator}

def IsCurrent (t : FileTree) (g : Generator) : Prop :=
  g.known = none ∨ g.known = some (g.config.layout t)

theorem config_ofConfig (c : Config) : (ofConfig c).config = c := rfl

theorem isCurrent_ofConfig (t : FileTree) (c : Config) : IsCurrent t (ofConfig c) := Or.inl rfl

theorem IsCurrent.layout_eq (h : IsCurrent t g) : g.layout t = (ofConfig g.config).layout t := by
  have hl : (ofConfig g.config).layout t = g.config.layout t := rfl
  rw [hl, layout]
  rcases h with h | h
  · rw [h, Option.getD_none]
  · rw [h, Option.getD_some]

theorem IsCurrent.remember (h : IsCurrent t g) : IsCurrent t (g.remember t) := by
  apply Or.inr
  exact congrArg some h.layout_eq

theorem IsCurrent.setPrettier (h : IsCurrent t g) (on : Bool) :
    IsCurrent t (g.setPrettier on) := by
  unfold IsCurrent Generator.setPrettier
  rw [Config.layout_setPrettier]
  exact h

theorem isCurrent_start (t : FileTree) (s : Start) : IsCurrent t (start t s) := by
  cases s with
  | ofConfig c => exact isCurrent_ofConfig t c
  | default => exact isCurrent_ofConfig t {}
  | ofDirectory root => exact isCurrent_ofConfig t _

theorem IsCurrent.after (h : IsCurrent t g) (c : Call) : IsCurrent t (g.after t c) := by
  cases c with
  | setOutDir p => exact isCurrent_ofConfig t _
  | setInputDir p => exact isCurrent_ofConfig t _
  | addFile p => exact isCurrent_ofConfig t _
  | setPrettier on => exact h.setPrettier on
  | transform p contents => exact h.remember
  | generate f => exact h.remember

theorem IsCurrent.foldl_after (h : IsCurrent t g) (cs : List Call) :
    IsCurrent t (cs.foldl (Generator.after t) g) := by
  induction cs generalizing g with
  | nil => exact h
  | cons c cs ih => exact ih (h.after c)

theorem config_after (t : FileTree) (g : Generator) (c : Call) :
    (g.after t c).config = g.config.after c := by
  cases c <;> rfl

theorem config_foldl_after (t : FileTree) (g : Generator) (cs : List Call) :
    (cs.foldl (after t) g).config = cs.foldl Config.after g.config := by
  induction cs generalizing g with
  | nil => rfl
  | cons c cs ih => rw [List.foldl_cons, List.foldl_cons, ih, config_after]

section Answers

variable (hc : g.config = g'.config) (hl : g.layout t = g'.layout t)

include hc hl

theorem transform_congr (p : Path) (contents : String) :
    g.transform t p contents = g'.transform t p contents := by
  simp only [transform, placeOf, outDirPath, hc, hl]

theorem moduleOf_congr (seen : List Path) (p : Path) :
    g.moduleOf t seen p = g'.moduleOf t seen p := by
  simp only [moduleOf, outDirPath, hc, hl]

theorem modules_congr (seen ps : List Path) : g.modules t seen ps = g'.modules t seen ps := by
  induction ps generalizing seen with
  | nil => rfl
  | cons p ps ih => simp only [modules, moduleOf_congr hc hl, hc, ih]

theorem generate_congr (f : Formatter) : g.generate t f = g'.generate t f := by
  have hfinish : g.finish = g'.finish := by
    funext generated
    simp only [finish, outDirPath, hc]
  simp only [generate, files, modules_congr hc hl, hfinish, hc]

theorem answer?_congr (c : Call) : g.answer? t c = g'.answer? t c := by
  cases c with
  | transform p contents => simp only [answer?, transform_congr hc hl]
  | generate f => simp only [answer?, generate_congr hc hl]
  | _ => rfl

end Answers

theorem IsCurrent.answer?_eq (h : IsCurrent t g) (c : Call) :
    g.answer? t c = (ofConfig g.config).answer? t c :=
  answer?_congr (config_ofConfig g.config).symm h.layout_eq c

theorem IsCurrent.answers_eq (h : IsCurrent t g) (cs : List Call) :
    answers t g cs = g.config.answers t cs := by
  induction cs generalizing g with
  | nil => rfl
  | cons c cs ih => rw [answers, Config.answers, h.answer?_eq, ih (h.after c), config_after]

/-- Whatever a generator has been asked before, while the files stay as they are: it remembers no
layout or that of its settings, which are those that the calls have made; it transforms and
generates as a generator made out of these would, and so did it answer each of the calls. -/
theorem answers_from_settings (t : FileTree) (s : Start) (calls : List Call) :
    let g := calls.foldl (after t) (start t s)
    g.config = calls.foldl Config.after (start t s).config ∧
      (g.known = none ∨ g.known = some (g.config.layout t)) ∧
      (∀ p contents, g.transform t p contents = (ofConfig g.config).transform t p contents) ∧
      (∀ f, g.generate t f = (ofConfig g.config).generate t f) ∧
      answers t (start t s) calls = (start t s).config.answers t calls := by
  intro g
  have hs : IsCurrent t (start t s) := isCurrent_start t s
  have hg : IsCurrent t g := hs.foldl_after calls
  have hc : g.config = (ofConfig g.config).config := (config_ofConfig g.config).symm
  refine ⟨config_foldl_after t _ calls, hg, ?_, ?_, hs.answers_eq calls⟩
  · intro p contents
    exact transform_congr hc hg.layout_eq p contents
  · intro f
    exact generate_congr hc hg.layout_eq f

end Generator

end ContractTypings
