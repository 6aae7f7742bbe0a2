import SwitchAdmin.Proofs.PathRoundTrip
import SwitchAdmin.Proofs.Resolution

/-!
# The URL of a resolution

A resolution reports the URL it matched: its final segments joined by slashes, raw. Whether
that URL is canonical, that is whether recognising it again gives the same resolution with
no redirect, depends on those segments. Decoding can put a `/` inside a segment (`%2F`),
which the joined URL then reads as a separator: `/configs/a%2Fb` resolves to
`/configs/a/b`, which matches nothing (`recognize_encoded_slash_not_canonical`).

The main statement, `recognize_url_of_plain`, says that the URL is canonical whenever the
final segments are plain (`plainSegment`): recognising it again runs one walk on the same
segments, and that walk matched. The segments are those of the resolution's matched chain,
so the condition can be read off the resolution itself.
-/

namespace SwitchAdmin

theorem Except.eq_ok_of_toOption_eq_some {ε α : Type} {x : Except ε α} {a : α}
    (h : x.toOption = some a) : x = .ok a := by
  cases x with
  | error e => cases h
  | ok b => cases h; rfl

/-- **The URL of a resolution is canonical when its segments are plain.** If recognising a
URL resolves it, and every segment of the matched chain is plain, then recognising the
reported URL gives the same resolution, without the redirects followed the first time. -/
theorem recognize_url_of_plain (r : Router) (u : String) (res : Resolution)
    (h : (r.recognize u).1 = .ok res)
    (hplain : ∀ s ∈ res.matched.flatMap (·.segments), plainSegment s) :
    (r.recognize res.url).1 = .ok { res with redirects := [] } := by
  obtain ⟨segments, chain, v, redirects, hw, rfl⟩ := Router.recognize_eq_ok h
  -- the chain spells the segments of the walk that matched
  obtain ⟨-, -, -, hsegs⟩ :=
    resolves_of_mem_tableCandidates _ _ _ _ (mem_tableCandidates_of_walkTable hw)
  dsimp only at hplain
  rw [hsegs] at hplain
  rw [Router.recognize_of_normalizePath (normalizePath_joinSegments _ segments hplain),
    Router.follow_of_matched hw]

/-- A router whose one route shows a view for `configs` and one more segment. -/
def configRouter : Router :=
  { root := [{ path := "configs/:id", view := some ⟨0, View.named "config"⟩ }] }

/-- A segment decoded from UTF-8 escapes is plain: the URL reported for `/configs/caf%C3%A9`
is `/configs/café`, and it resolves again to the same resolution. -/
theorem recognize_url_canonical_cafe :
    ∃ res, (configRouter.recognize "/configs/caf%C3%A9").1 = .ok res ∧
      (∀ s ∈ res.matched.flatMap (·.segments), plainSegment s) ∧
      (configRouter.recognize res.url).1 = .ok { res with redirects := [] } := by
  have hsegs : (configRouter.recognize "/configs/caf%C3%A9").1.toOption.map
      (fun res => res.matched.flatMap (·.segments)) = some ["configs", "café"] := by
    decide +kernel
  obtain ⟨res, hres, hsegs⟩ := Option.map_eq_some_iff.mp hsegs
  have hok := Except.eq_ok_of_toOption_eq_some hres
  have hplain : ∀ s ∈ res.matched.flatMap (·.segments), plainSegment s := by
    rw [hsegs]
    decide +kernel
  exact ⟨res, hok, hplain, recognize_url_of_plain configRouter _ res hok hplain⟩

/-- A decoded slash makes the URL of a resolution unusable: `/configs/a%2Fb` resolves with the
segments `configs` and `a/b`, reported as `/configs/a/b`, and that URL matches nothing. -/
theorem recognize_encoded_slash_not_canonical :
    ∃ res, (configRouter.recognize "/configs/a%2Fb").1 = .ok res ∧ res.url = "/configs/a/b" ∧
      (configRouter.recognize res.url).1 = .error (.noMatch "/configs/a/b") := by
  have hurl : (configRouter.recognize "/configs/a%2Fb").1.toOption.map (·.url) =
      some "/configs/a/b" := by
    decide +kernel
  obtain ⟨res, hres, hurl⟩ := Option.map_eq_some_iff.mp hurl
  refine ⟨res, Except.eq_ok_of_toOption_eq_some hres, hurl, ?_⟩
  -- the reported URL reads as three segments, and the route takes exactly two
  have hnorm : (normalizePath configRouter.domainToAscii "/configs/a/b").toOption =
      some ["configs", "a", "b"] := by
    decide +kernel
  have hwalk : (configRouter.rootWalk ["configs", "a", "b"]).1.isNone := by
    decide +kernel
  rw [hurl, Router.recognize_of_normalizePath (Except.eq_ok_of_toOption_eq_some hnorm),
    Router.follow_of_none (Option.isNone_iff_eq_none.mp hwalk)]
  rfl

end SwitchAdmin
