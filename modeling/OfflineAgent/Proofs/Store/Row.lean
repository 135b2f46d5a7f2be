import OfflineAgent.Proofs.Json.Values
import OfflineAgent.Proofs.Store.Lookup

/-!
# Entries and their rows

The row that is written of an entry holds the headers as a JSON text and the time in one form, and
it is read as the entry. So nothing of an entry is lost in its row.
-/

namespace OfflineAgent.Store

variable {store : String} {key : Key} {response : Response} {now : Moment}

theorem Row.parse_headers_encode :
    Json.Value.parse (Row.encode store key response now).headers.toUTF8.toList =
      .ok (Json.stringPairs response.headers) :=
  (Json.fits_stringPairs response.headers).parse_compact

/-- **What is written is read again**: a put leaves one row of the entry, with the headers as JSON
and the time to the second, and this row is read as the entry that was put, in any place. -/
theorem Tables.read_as_put (tables : Tables) (store : String) (key : Key) (response : Response)
    (hclock : now.IsClock) :
    ∃ row, (tables.put store key response now).find? store key.hash = some row ∧
      Json.Value.parse row.headers.toUTF8.toList = .ok (Json.stringPairs response.headers) ∧
      Moment.pattern row.cachedAt = "0000-00-00 00:00:00" ∧
      (∀ badStatus, row.read badStatus = .ok ⟨key, response, now⟩) ∧
      (tables.put store key response now).get store key = .ok (some ⟨key, response, now⟩) := by
  refine ⟨.encode store key response now, find?_put_self, ?_, ?_, ?_, ?_⟩
  · exact Row.parse_headers_encode
  · exact Moment.pattern_stored hclock
  · exact fun badStatus => Row.read_encode hclock
  · exact get_of_find? hclock find?_put_self

/-! ### An entry of odd characters -/

namespace Oddments

def odd : Response where
  status := 65535
  headers := [("x-\"\\", "\x00\x1f\n\r\t\x08\x0c\x7f"), ("", "é\u2028😀"), ("x-\"\\", "")]
  body := .empty

/-- A leap day of the first year. -/
def leapDay : Moment := ⟨0, 2, 29, 23, 59, 59⟩

def oddKey : Key := ⟨"A B\"", "data:a b"⟩

theorem read_odd : leapDay.IsClock ∧
    ∃ row, (Tables.empty.put "pages" oddKey odd leapDay).find? "pages" oddKey.hash = some row ∧
      Json.Value.parse row.headers.toUTF8.toList = .ok (Json.stringPairs odd.headers) ∧
      Moment.pattern row.cachedAt = "0000-00-00 00:00:00" ∧
      (∀ badStatus, row.read badStatus = .ok ⟨oddKey, odd, leapDay⟩) ∧
      (Tables.empty.put "pages" oddKey odd leapDay).get "pages" oddKey =
        .ok (some ⟨oddKey, odd, leapDay⟩) := by
  have hclock : leapDay.IsClock := by decide
  exact ⟨hclock, Tables.empty.read_as_put "pages" oddKey odd hclock⟩

end Oddments

end OfflineAgent.Store
