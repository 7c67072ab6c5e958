import PostalRegions.Http.Router

/-!
# Response documents

The body of most responses is a document: values under names.
-/

namespace PostalRegions.Http

inductive Field (κ : Type) where
  | text (value : String)
  | texts (values : List String)
  | count (value : Nat)
  | flag (value : Bool)
  | confidence (value : κ)
  | moment (value : Option Instant)

variable {κ : Type}

def matchFields (query : LookupQuery) (country : String) (found : RegionMatch κ) :
    List (String × Field κ) :=
  [("postal_code", .text query.postalCode),
   ("country_code", .text country),
   ("match_type", .text found.kind.name),
   ("nuts1", .text found.level1),
   ("nuts1_confidence", .confidence found.confidences.level1),
   ("nuts2", .text found.level2),
   ("nuts2_confidence", .confidence found.confidences.level2),
   ("nuts3", .text found.level3),
   ("nuts3_confidence", .confidence found.confidences.level3)]

def Health.fields (health : Health) : List (String × Field κ) :=
  [("status", .text health.status),
   ("total_postal_codes", .count health.exactCount),
   ("total_estimates", .count health.estimateCount),
   ("countries", .texts (health.countries.map Country.code)),
   ("data_stale", .flag health.isStale),
   ("data_loaded_at", .moment health.loadedAt),
   ("dataset_version", .text health.version),
   ("extra_sources", .count health.extraSourceCount)]

def formatFields (country : Country) (format : PostalFormat) : List (String × Field κ) :=
  [("country_code", .text country.code),
   ("regex", .text format.pattern.written),
   ("example", .text format.sample)]

/-- The document of a body, if it is one. -/
def Body.fields? (body : Body κ) : Option (List (String × Field κ)) :=
  match body with
  | .none | .text _ => Option.none
  | .failure message => some [("error", .text message)]
  | .found query country result => some (matchFields query country result)
  | .health state => some state.fields
  | .format country layout => some (formatFields country layout)

end PostalRegions.Http
