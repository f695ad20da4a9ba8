import HtmlModules.Dependency.Basic

/-!
# The names that are known

The packages that have moved, in the order of the list they are published in.
-/

namespace HtmlModules.Dependencies

/-- The packages that have moved: their old and new names and the versions that will do. -/
def moved : List (String × String × String) :=
  [("polymer", "@polymer/polymer", "^3.0.0"),
    ("shadycss", "@webcomponents/shadycss", "^1.2.0"),
    ("webcomponentsjs", "@webcomponents/webcomponentsjs", "^2.0.0"),
    ("web-component-tester", "wct-browser-legacy", "^1.0.0"),
    ("test-fixture", "@polymer/test-fixture", "^3.0.0"),
    ("font-roboto", "@polymer/font-roboto", "^3.0.0"),
    ("promise-polyfill", "@polymer/promise-polyfill", "^3.0.0"),
    ("sinonjs", "sinon", "^2.0.0"),
    ("prism", "prismjs", "^1.11.0"),
    ("marked", "marked", "^0.3.9"),
    ("iron-a11y-announcer", "@polymer/iron-a11y-announcer", "^3.0.0-pre.1"),
    ("iron-a11y-keys", "@polymer/iron-a11y-keys", "^3.0.0-pre.1"),
    ("iron-a11y-keys-behavior", "@polymer/iron-a11y-keys-behavior", "^3.0.0-pre.1"),
    ("iron-ajax", "@polymer/iron-ajax", "^3.0.0-pre.1"),
    ("iron-autogrow-textarea", "@polymer/iron-autogrow-textarea", "^3.0.0-pre.1"),
    ("iron-behaviors", "@polymer/iron-behaviors", "^3.0.0-pre.1"),
    ("iron-checked-element-behavior", "@polymer/iron-checked-element-behavior", "^3.0.0-pre.1"),
    ("iron-collapse", "@polymer/iron-collapse", "^3.0.0-pre.1"),
    ("iron-component-page", "@polymer/iron-component-page", "^3.0.0-pre.1"),
    ("iron-demo-helpers", "@polymer/iron-demo-helpers", "^3.0.0-pre.1"),
    ("iron-doc-viewer", "@polymer/iron-doc-viewer", "^3.0.0-pre.1"),
    ("iron-dropdown", "@polymer/iron-dropdown", "^3.0.0-pre.1"),
    ("iron-fit-behavior", "@polymer/iron-fit-behavior", "^3.0.0-pre.1"),
    ("iron-flex-layout", "@polymer/iron-flex-layout", "^3.0.0-pre.1"),
    ("iron-form", "@polymer/iron-form", "^3.0.0-pre.1"),
    ("iron-form-element-behavior", "@polymer/iron-form-element-behavior", "^3.0.0-pre.1"),
    ("iron-icon", "@polymer/iron-icon", "^3.0.0-pre.1"),
    ("iron-icons", "@polymer/iron-icons", "^3.0.0-pre.1"),
    ("iron-iconset-svg", "@polymer/iron-iconset-svg", "^3.0.0-pre.1"),
    ("iron-image", "@polymer/iron-image", "^3.0.0-pre.1"),
    ("iron-input", "@polymer/iron-input", "^3.0.0-pre.1"),
    ("iron-list", "@polymer/iron-list", "^3.0.0-pre.1"),
    ("iron-localstorage", "@polymer/iron-localstorage", "^3.0.0-pre.1"),
    ("iron-location", "@polymer/iron-location", "^3.0.0-pre.1"),
    ("iron-media-query", "@polymer/iron-media-query", "^3.0.0-pre.1"),
    ("iron-menu-behavior", "@polymer/iron-menu-behavior", "^3.0.0-pre.1"),
    ("iron-meta", "@polymer/iron-meta", "^3.0.0-pre.1"),
    ("iron-overlay-behavior", "@polymer/iron-overlay-behavior", "^3.0.0-pre.1"),
    ("iron-pages", "@polymer/iron-pages", "^3.0.0-pre.1"),
    ("iron-range-behavior", "@polymer/iron-range-behavior", "^3.0.0-pre.1"),
    ("iron-resizable-behavior", "@polymer/iron-resizable-behavior", "^3.0.0-pre.1"),
    ("iron-scroll-target-behavior", "@polymer/iron-scroll-target-behavior", "^3.0.0-pre.1"),
    ("iron-selector", "@polymer/iron-selector", "^3.0.0-pre.1"),
    ("iron-test-helpers", "@polymer/iron-test-helpers", "^3.0.0-pre.1"),
    ("iron-validatable-behavior", "@polymer/iron-validatable-behavior", "^3.0.0-pre.1"),
    ("iron-validator-behavior", "@polymer/iron-validator-behavior", "^3.0.0-pre.1"),
    ("neon-animation", "@polymer/neon-animation", "^3.0.0-pre.1"),
    ("paper-badge", "@polymer/paper-badge", "^3.0.0-pre.1"),
    ("paper-behaviors", "@polymer/paper-behaviors", "^3.0.0-pre.1"),
    ("paper-button", "@polymer/paper-button", "^3.0.0-pre.1"),
    ("paper-card", "@polymer/paper-card", "^3.0.0-pre.1"),
    ("paper-checkbox", "@polymer/paper-checkbox", "^3.0.0-pre.1"),
    ("paper-dialog", "@polymer/paper-dialog", "^3.0.0-pre.1"),
    ("paper-dialog-behavior", "@polymer/paper-dialog-behavior", "^3.0.0-pre.1"),
    ("paper-dialog-scrollable", "@polymer/paper-dialog-scrollable", "^3.0.0-pre.1"),
    ("paper-drawer-panel", "@polymer/paper-drawer-panel", "^3.0.0-pre.1"),
    ("paper-dropdown-menu", "@polymer/paper-dropdown-menu", "^3.0.0-pre.1"),
    ("paper-fab", "@polymer/paper-fab", "^3.0.0-pre.1"),
    ("paper-header-panel", "@polymer/paper-header-panel", "^3.0.0-pre.1"),
    ("paper-icon-button", "@polymer/paper-icon-button", "^3.0.0-pre.1"),
    ("paper-input", "@polymer/paper-input", "^3.0.0-pre.1"),
    ("paper-item", "@polymer/paper-item", "^3.0.0-pre.1"),
    ("paper-listbox", "@polymer/paper-listbox", "^3.0.0-pre.1"),
    ("paper-material", "@polymer/paper-material", "^3.0.0-pre.1"),
    ("paper-menu-button", "@polymer/paper-menu-button", "^3.0.0-pre.1"),
    ("paper-progress", "@polymer/paper-progress", "^3.0.0-pre.1"),
    ("paper-radio-button", "@polymer/paper-radio-button", "^3.0.0-pre.1"),
    ("paper-radio-group", "@polymer/paper-radio-group", "^3.0.0-pre.1"),
    ("paper-ripple", "@polymer/paper-ripple", "^3.0.0-pre.1"),
    ("paper-slider", "@polymer/paper-slider", "^3.0.0-pre.1"),
    ("paper-spinner", "@polymer/paper-spinner", "^3.0.0-pre.1"),
    ("paper-styles", "@polymer/paper-styles", "^3.0.0-pre.1"),
    ("paper-swatch-picker", "@polymer/paper-swatch-picker", "^3.0.0-pre.1"),
    ("paper-tabs", "@polymer/paper-tabs", "^3.0.0-pre.1"),
    ("paper-toast", "@polymer/paper-toast", "^3.0.0-pre.1"),
    ("paper-toggle-button", "@polymer/paper-toggle-button", "^3.0.0-pre.1"),
    ("paper-toolbar", "@polymer/paper-toolbar", "^3.0.0-pre.1"),
    ("paper-tooltip", "@polymer/paper-tooltip", "^3.0.0-pre.1"),
    ("app-layout", "@polymer/app-layout", "^3.0.0-pre.1"),
    ("app-localize-behavior", "@polymer/app-localize-behavior", "^3.0.0-pre.1"),
    ("app-route", "@polymer/app-route", "^3.0.0-pre.1"),
    ("app-storage", "@polymer/app-storage", "^3.0.0-pre.1"),
    ("marked-element", "@polymer/marked-element", "^3.0.0-pre.1"),
    ("prism-element", "@polymer/prism-element", "^3.0.0-pre.1"),
    ("gold-phone-input", "@polymer/gold-phone-input", "^3.0.0-pre.1"),
    ("gold-zip-input", "@polymer/gold-zip-input", "^3.0.0-pre.1")]

/-- The packages whose new names are known. -/
def bundled : Dependencies :=
  moved.map fun (old, name, version) => (old, .ofTexts name version)

end HtmlModules.Dependencies
