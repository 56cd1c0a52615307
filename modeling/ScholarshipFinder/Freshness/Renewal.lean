import ScholarshipFinder.Freshness.OpenSpan

/-!
# What a renewal is worth

An unchanged recheck renews `last_verified_at` and may restore the status, but it leaves
`status_valid_until` as an earlier tick computed it.  So a renewed cycle is open for as long
as its evidence is fresh only if that window has not run out before a tick recomputes it.
-/

namespace ScholarshipFinder

open Lib

variable {py : Py} {settings : Settings} {c : CycleId}

end ScholarshipFinder
