import CatalogFinder.Digest.Sha256
import CatalogFinder.Json.Printer

/-!
# Fingerprints

The fingerprint of a JSON value is the digest of its compact text. It tells two values apart wherever their texts
differ, as far as the digest does.
-/

namespace CatalogFinder

/-- The digest of the value's text. -/
def Json.fingerprint (j : Json) : String := Sha256.hex j.compact

end CatalogFinder
