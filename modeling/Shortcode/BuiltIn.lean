/-!
# Built-in templates

The templates that every project has.  A template of the same name in the project takes the place
of one of these.
-/

namespace Shortcode.BuiltIn

/-- The text made of these lines. -/
def ofLines (lines : List String) : String := String.join (lines.map (· ++ "\n"))

/-- Each line is followed by one line end. -/
theorem toList_ofLines (lines : List String) :
    (ofLines lines).toList = lines.flatMap (fun line => line.toList ++ ['\n']) := by
  unfold ofLines
  induction lines with
  | nil => rfl
  | cons first rest ih => simp_all [String.join_cons]

/-- A box around its body, with a title if one is given. -/
def callout : String := ofLines [
  "\x7b%- set kind = type | default('info') -%\x7d",
  "<div class=\"callout callout-\x7b\x7b kind | e \x7d\x7d\">",
  "\x7b%- if title is defined %\x7d",
  "<p class=\"callout-title\">\x7b\x7b title \x7d\x7d</p>",
  "\x7b%- endif %\x7d",
  "",
  "\x7b\x7b body \x7d\x7d",
  "",
  "</div>"]

/-- The contact form of the site's provider; two providers bring markup of their own. -/
def contactForm : String := ofLines [
  "\x7b%- set contact = site.contact if site.contact is defined and " ++
    "site.contact else \x7b\x7d -%\x7d",
  "\x7b%- set provider = (contact.provider if contact.provider is defined " ++
    "and contact.provider else \"\") | string | lower -%\x7d",
  "\x7b%- set endpoint = contact.endpoint if contact.endpoint is defined " ++
    "and contact.endpoint else \"\" -%\x7d",
  "\x7b%- set subject = contact.subject if contact.subject is defined and " ++
    "contact.subject else \"\" -%\x7d",
  "\x7b%- set redirect = contact.redirect if contact.redirect is defined " ++
    "and contact.redirect else \"\" -%\x7d",
  "\x7b%- set region = contact.region if contact.region is defined and " ++
    "contact.region else \"na1\" -%\x7d",
  "\x7b%- if provider == 'hubspot' -%\x7d",
  "\x7b%- set parts = endpoint.split('/') -%\x7d",
  "<div class=\"contact-form contact-form-hubspot\">",
  "  <script charset=\"utf-8\" type=\"text/javascript\" " ++
    "src=\"//js.hsforms.net/forms/embed/v2.js\"></script>",
  "  <script>",
  "    hbspt.forms.create(\x7b",
  "      region: \"\x7b\x7b region \x7d\x7d\",",
  "      portalId: \"\x7b\x7b parts[0] \x7d\x7d\",",
  "      formId: \"\x7b\x7b parts[1] if parts | length > 1 else '' \x7d\x7d\"",
  "    \x7d);",
  "  </script>",
  "</div>",
  "\x7b%- elif provider == 'typeform' -%\x7d",
  "<div class=\"contact-form contact-form-typeform\">",
  "  <div data-tf-live=\"\x7b\x7b endpoint | e \x7d\x7d\"></div>",
  "  <script src=\"//embed.typeform.com/next/embed.js\"></script>",
  "</div>",
  "\x7b%- else -%\x7d",
  "\x7b%- if provider == 'formspree' -%\x7d",
  "\x7b%- set action = 'https://formspree.io/f/' ~ endpoint -%\x7d",
  "\x7b%- elif provider == 'web3forms' -%\x7d",
  "\x7b%- set action = 'https://api.web3forms.com/submit' -%\x7d",
  "\x7b%- else -%\x7d",
  "\x7b%- set action = '' -%\x7d",
  "\x7b%- endif -%\x7d",
  "<form class=\"contact-form\x7b% if provider %\x7d contact-form-\x7b\x7b provider " ++
    "\x7d\x7d\x7b% endif %\x7d\" method=\"POST\"\x7b% if action %\x7d action=\"\x7b\x7b a" ++
    "ction | e \x7d\x7d\"\x7b% endif %\x7d\x7b% if provider == 'netlify' %\x7d name" ++
    "=\"\x7b\x7b endpoint | e \x7d\x7d\" data-netlify=\"true\" " ++
    "netlify-honeypot=\"bot-field\"\x7b% endif %\x7d>",
  "  \x7b%- if provider == 'netlify' %\x7d",
  "  <input type=\"hidden\" name=\"form-name\" value=\"\x7b\x7b endpoint | e \x7d\x7d\">",
  "  <p hidden><label>Leave this empty: <input name=\"bot-field\"></label></p>",
  "  \x7b%- elif provider == 'web3forms' %\x7d",
  "  <input type=\"hidden\" name=\"access_key\" value=\"\x7b\x7b endpoint | e \x7d\x7d\">",
  "  \x7b%- endif %\x7d",
  "  \x7b%- if subject %\x7d",
  "  <input type=\"hidden\" name=\"subject\" value=\"\x7b\x7b subject | e \x7d\x7d\">",
  "  \x7b%- endif %\x7d",
  "  \x7b%- if redirect %\x7d",
  "  <input type=\"hidden\" name=\"\x7b\x7b '_next' if provider == 'formspree' " ++
    "else 'redirect' \x7d\x7d\" value=\"\x7b\x7b redirect | e \x7d\x7d\">",
  "  \x7b%- endif %\x7d",
  "  <label for=\"contact-name\">Name</label>",
  "  <input id=\"contact-name\" type=\"text\" name=\"name\" required>",
  "  <label for=\"contact-email\">Email</label>",
  "  <input id=\"contact-email\" type=\"email\" name=\"email\" required>",
  "  <label for=\"contact-message\">Message</label>",
  "  <textarea id=\"contact-message\" name=\"message\" rows=\"5\" required></textarea>",
  "  <button type=\"submit\">\x7b\x7b (label | default('Send')) | e \x7d\x7d</button>",
  "</form>",
  "\x7b%- endif -%\x7d"]

/-- An image, with a caption if one is given. -/
def figure : String := ofLines [
  "<figure>",
  "  <img src=\"\x7b\x7b src | e \x7d\x7d\" alt=\"\x7b\x7b (alt | default(caption | " ++
    "default(''))) | e \x7d\x7d\"\x7b% if width is defined %\x7d width=\"\x7b\x7b width \x7d" ++
    "\x7d\"\x7b% endif %\x7d loading=\"lazy\">",
  "  \x7b%- if caption is defined %\x7d",
  "  <figcaption>\x7b\x7b caption \x7d\x7d</figcaption>",
  "  \x7b%- endif %\x7d",
  "</figure>"]

/-- A script that shows a snippet of code. -/
def gist : String := ofLines [
  "<div class=\"gist-embed\">",
  "  <script src=\"https://gist.github.com/\x7b\x7b user | e \x7d\x7d/\x7b\x7b id | e " ++
    "\x7d\x7d.js\x7b% if file is defined %\x7d?file=\x7b\x7b file | urlencode \x7d\x7d\x7b% e" ++
    "ndif %\x7d\"></script>",
  "</div>"]

/-- A player for a video on Vimeo. -/
def vimeo : String := ofLines [
  "<div class=\"video-embed video-embed-vimeo\">",
  "  <iframe src=\"https://player.vimeo.com/video/\x7b\x7b id | e \x7d\x7d\" title" ++
    "=\"\x7b\x7b (title | default('Vimeo video')) | e \x7d\x7d\" frameborder=\"0\" " ++
    "allow=\"autoplay; fullscreen; picture-in-picture\" allowfullscreen " ++
    "loading=\"lazy\"></iframe>",
  "</div>"]

/-- A player for a video on YouTube. -/
def youtube : String := ofLines [
  "<div class=\"video-embed video-embed-youtube\">",
  "  <iframe src=\"https://www.youtube.com/embed/\x7b\x7b id | e \x7d\x7d\x7b% if start " ++
    "is defined %\x7d?start=\x7b\x7b start \x7d\x7d\x7b% endif %\x7d\" title=\"\x7b\x7b (tit" ++
    "le | default('YouTube video')) | e \x7d\x7d\" frameborder=\"0\" " ++
    "allow=\"accelerometer; autoplay; clipboard-write; encrypted-media; " ++
    "gyroscope; picture-in-picture\" allowfullscreen " ++
    "loading=\"lazy\"></iframe>",
  "</div>"]

/-- The built-in templates by name. -/
def templates : List (String × String) := [
  ("callout", callout),
  ("contact_form", contactForm),
  ("figure", figure),
  ("gist", gist),
  ("vimeo", vimeo),
  ("youtube", youtube)]

end Shortcode.BuiltIn
