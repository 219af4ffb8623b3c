import Expectation.Configuration.Settings
import Expectation.Configuration.Toml
import Expectation.Configuration.Yaml

/-!
# Loading configurations

The parser that the program runs with, and loading with it.

* `Configuration.Language.parse`: the readers of the two languages;
* `Configuration.load`, `Configuration.loadFile`: the configuration in a document.
-/

namespace Expectation.Configuration

/-- The parser that the program runs with. It knows those parts of the languages that configuration files
are written in. -/
def Language.parse : Parser
  | toml => Toml.parse
  | yaml => Yaml.parse

/-- The configuration in the text of a document. -/
def load : Language → String → Except ConfigurationError Configuration := ofText Language.parse

/-- The configuration in a file, whose content is missing where there is no such file. -/
def loadFile : Language → Option ByteArray → Except ConfigurationError Configuration :=
  ofFile Language.parse

end Expectation.Configuration
