/-!
# An example

* `Config.exampleText`: the text of a configuration that uses most operators.
-/

namespace Reshape.Config

/-- A configuration that lists male gods of two sheets. -/
def exampleText : String :=
  "# Build a list of male god names from an English and a Greek sheet.
- name: Gods in English
  ops:
    - load: \x7bpath: gods.xlsx\x7d
    - filterObjects:
        - \x7bfield: sex, include: [male]\x7d
    - copyTo: Male God names

- name: Gods in Greek
  ops:
    - load: \x7bpath: gods.xlsx\x7d
    - filterObjects:
        - \x7bfield: φύλο, include: [αρσενικό]\x7d
    - mapFields: \x7bόνομα: name\x7d
    - copyTo: Male God names

- name: Male God names
  ops:
    - filterFields: \x7binclude: [name]\x7d
    - mapValues:
        - \x7bfield: name, from: Zeus, to: Jupiter\x7d
        - \x7bmap: \"if name == 'Ares' then name = 'Mars'\"\x7d
    - save: \x7bpath: male-gods.xlsx, sheetName: Gods\x7d
"

end Reshape.Config
