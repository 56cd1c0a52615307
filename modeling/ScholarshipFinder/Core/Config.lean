import ScholarshipFinder.Domain.Freshness

/-!
# Settings (`core/config.py`)

The settings the freshness jobs and the page fetch read, with their defaults.
-/

namespace ScholarshipFinder

structure Settings where
  freshnessNearDeadlineDays : ℤ := 14
  freshnessUpcomingNearMonths : ℤ := 1
  freshnessUpcomingFarMonths : ℤ := 2
  freshnessOpenFarFetchHours : ℤ := 24
  freshnessOpenFarMaxAgeHours : ℤ := 48
  freshnessOpenNearFetchHours : ℤ := 6
  freshnessOpenNearMaxAgeHours : ℤ := 12
  freshnessRollingFetchHours : ℤ := 24
  freshnessRollingMaxAgeHours : ℤ := 48
  freshnessUpcomingNearFetchHours : ℤ := 24
  freshnessUpcomingFarFetchHours : ℤ := 168
  freshnessUpcomingMaxAgeHours : ℤ := 336
  freshnessUnknownFetchHours : ℤ := 720
  freshnessUnknownMaxAgeHours : ℤ := 1440
  freshnessClosedFetchHours : ℤ := 2160
  freshnessClosedMaxAgeHours : ℤ := 4320
  refreshStatusBatchLimit : ℕ := 500
  reverifyDueBatchLimit : ℕ := 100
  jinaApiKey : Option String := none
  jinaMonthlyCallLimit : ℤ := 500
deriving DecidableEq, Repr

/-- `_freshness_config` (`infra/freshness.py`) -/
def freshnessConfig (settings : Settings) : FreshnessConfig where
  nearDeadlineDays := settings.freshnessNearDeadlineDays
  upcomingNearMonths := settings.freshnessUpcomingNearMonths
  upcomingFarMonths := settings.freshnessUpcomingFarMonths
  openFarFetchHours := settings.freshnessOpenFarFetchHours
  openFarMaxAgeHours := settings.freshnessOpenFarMaxAgeHours
  openNearFetchHours := settings.freshnessOpenNearFetchHours
  openNearMaxAgeHours := settings.freshnessOpenNearMaxAgeHours
  rollingFetchHours := settings.freshnessRollingFetchHours
  rollingMaxAgeHours := settings.freshnessRollingMaxAgeHours
  upcomingNearFetchHours := settings.freshnessUpcomingNearFetchHours
  upcomingFarFetchHours := settings.freshnessUpcomingFarFetchHours
  upcomingMaxAgeHours := settings.freshnessUpcomingMaxAgeHours
  unknownFetchHours := settings.freshnessUnknownFetchHours
  unknownMaxAgeHours := settings.freshnessUnknownMaxAgeHours
  closedFetchHours := settings.freshnessClosedFetchHours
  closedMaxAgeHours := settings.freshnessClosedMaxAgeHours

end ScholarshipFinder
